import Settle.Apply.Session
import Settle.Proofs.Except
import Settle.Proofs.Race.Timely
import Settle.Proofs.Retry.Attempts

/-!
# Writing before reading

A session first writes and then waits, under one deadline that begins with the first write. Nothing
is read before a write has succeeded, nothing is written afterwards, and what the session gives is
what the first write that succeeded has given. A wait makes no call behind the deadline; without
anything to wait for, the rules are checked once.
-/

namespace Settle

namespace Session

variable {τ α : Type}

/-- The same session with its times read on another scale. -/
def map {σ : Type} (f : σ → τ) (s : Session σ) : Session τ where
  name         := s.name
  target?      := s.target?
  strategy?    := s.strategy?
  rules        := s.rules
  interval     := f s.interval
  checkPause   := f s.checkPause
  removalPause := f s.removalPause
  backoff      :=
    ⟨f s.backoff.timeout, s.backoff.retries, f s.backoff.initial, f s.backoff.limit,
      f s.backoff.factor⟩

/-- A configuration that names a strategy gives a target. -/
lemma exists_strategy_of_strategy? {c : Config} (shape? : Option Shape) (hints : Hints)
    (h : c.strategy? ≠ none) :
    ∃ strategy, Target.ofBlock? shape? hints c.wait? = some (.state strategy) := by
  obtain ⟨wait?, errorOn?, timeouts⟩ := c
  cases wait? with
  | none => exact absurd rfl h
  | some block =>
    cases block with
    | nothing => exact absurd rfl h
    | rollout | conditions | fields => exact ⟨_, rfl⟩

/-- Without a strategy in the configuration, there is no target either. -/
lemma ofBlock?_eq_none {c : Config} (shape? : Option Shape) (hints : Hints)
    (h : c.strategy? = none) : Target.ofBlock? shape? hints c.wait? = none := by
  obtain ⟨wait?, errorOn?, timeouts⟩ := c
  cases wait? with
  | none => rfl
  | some block =>
    cases block with
    | nothing => rfl
    | rollout | conditions | fields => cases h

/-! ### Waiting -/

section Await

variable [TimeScale τ]

/-- A target and the rules as a race. -/
def race (s : Session τ) (deadline : Deadline τ) (target : Target) : Race τ :=
  ⟨⟨target, s.name, deadline, s.interval⟩, s.rules, s.checkPause⟩

/-- A session that waits from a time on makes a call at a time, whether or not its wait comes to an
end and in whatever order the sides of its race take their steps. -/
inductive Calls (s : Session τ) (deadline : Deadline τ) (feed : Feed τ) (back : τ) :
    Call → τ → Prop where
  | once (target : s.target? = none) (rules : s.rules ≠ []) : Calls s deadline feed back .check back
  | wait {target : Target} {k : Nat} {c : Call} {t : τ} (some : s.target? = some target)
      (rules : s.rules = [])
      (mem : t ∈ ((s.race deadline target).poll.course (feed.read · 0) back k).events.filterMap
        (Event.timeOf? c)) : Calls s deadline feed back c t
  | race {target : Target} {sides : List Race.Side} {c : Call} {t : τ}
      (some : s.target? = some target) (rules : s.rules ≠ [])
      (mem : t ∈ ((s.race deadline target).course feed back sides).events.filterMap
        (Event.timeOf? c)) : Calls s deadline feed back c t

variable {s : Session τ} {deadline : Deadline τ} {feed : Feed τ} {fuel : Nat} {back : τ}

lemma await_of_target {target : Target} (h : s.target? = some target) :
    s.await deadline feed fuel back = (s.race deadline target).run feed fuel back := by
  rw [await, h]
  rfl

lemma await_of_no_target (h : s.target? = none) :
    s.await deadline feed fuel back =
      if s.rules.isEmpty then some ⟨back, .ok (), []⟩
      else some (Race.checkOnce s.name s.rules (feed.check 0 0) back) := by
  rw [await, h]

/-- Whatever has been called when a wait ends is among the calls of the session. -/
lemma calls_of_await {e : Ended τ Unit} (h : s.await deadline feed fuel back = some e) :
    ∀ c, ∀ t ∈ e.times c, s.Calls deadline feed back c t := by
  intro c t ht
  cases htarget : s.target? with
  | none =>
    rw [await_of_no_target htarget] at h
    split at h
    · cases h
      cases ht
    · next hrules =>
      cases h
      rw [Ended.times, Race.checkOnce, Reply.times_events] at ht
      split at ht
      · next heq =>
        subst heq
        rw [List.mem_singleton.mp ht]
        exact .once htarget (by simpa using hrules)
      · cases ht
  | some target =>
    rw [await_of_target htarget] at h
    by_cases hrules : s.rules = []
    · rw [Race.run, if_pos (by simp [race, hrules])] at h
      obtain ⟨-, hevents⟩ := (Poll.run_eq_some_iff _ _).mp h
      rw [Ended.times, hevents] at ht
      exact .wait htarget hrules ht
    · obtain ⟨-, hevents⟩ := (Race.run_eq_some_iff _ feed back hrules).mp h
      rw [Ended.times, hevents] at ht
      exact .race htarget hrules ht

/-- Without a target, all that is called is the one check of the rules. -/
lemma Calls.eq_of_no_target {c : Call} {t : τ} (h : s.Calls deadline feed back c t)
    (htarget : s.target? = none) : c = .check ∧ t = back := by
  cases h with
  | once => exact ⟨rfl, rfl⟩
  | wait some | race some =>
    rw [htarget] at some
    cases some

/-- With a target, no call is made before the wait or behind the deadline. -/
lemma Calls.timely [Chronological τ] {target : Target} {c : Call} {t : τ}
    (h : s.Calls deadline feed back c t) (htarget : s.target? = some target) :
    c ≠ .write ∧ back ≤ t ∧ deadline.expired t = false := by
  cases h with
  | once none =>
    rw [htarget] at none
    cases none
  | wait _ _ mem => exact (Poll.timely_course _ _ back _).2 c t mem
  | race _ _ mem => exact (Race.punctual_course _ feed back _).timely c t mem

end Await

/-! ### Writing and waiting -/

section Apply

variable [GrowingScale τ] {s : Session τ} {op : Operation} {writes : Source τ α} {feed : Feed τ}
  {fuel : Nat} {now : τ} {first : Ended τ α}

/-- The wait that follows the writes, with the notice in front of it. -/
def settle (s : Session τ) (op : Operation) (feed : Feed τ) (fuel : Nat) (now back : τ) :
    Option (Ended τ Unit) :=
  (s.await (.starting now s.backoff.timeout) feed fuel back).map
    (·.after [.notice (.settling op s.name s.strategy? s.backoff.timeout)])

lemma apply_of_pending (hop : op ≠ .delete) (h : s.write writes fuel now = none) :
    s.apply op writes feed fuel now = none := by
  rw [apply, if_neg hop, h]
  rfl

/-- Writes that fail are all there is. -/
lemma apply_of_error (hop : op ≠ .delete) (h : s.write writes fuel now = some first)
    {f : Failure} (hfirst : first.outcome = .error f) :
    s.apply op writes feed fuel now = some first := by
  rw [apply, if_neg hop, h]
  simp only [Option.bind_eq_bind, Option.bind_some, followedBy, hfirst]

lemma pos_of_write (h : s.write writes fuel now = some first) : 0 < fuel := by
  cases fuel with
  | zero => cases h
  | succ fuel => exact Nat.succ_pos fuel

/-- The notice in front of a wait makes no call. -/
lemma exists_await_of_settle {e : Ended τ Unit} {back : τ}
    (h : s.settle op feed fuel now back = some e) :
    ∃ e', s.await (.starting now s.backoff.timeout) feed fuel back = some e' ∧
      e.outcome = e'.outcome ∧ ∀ c, e.times c = e'.times c := by
  obtain ⟨e', he', rfl⟩ := Option.map_eq_some_iff.mp h
  exact ⟨e', he', rfl, fun _ => rfl⟩

variable (op feed) in
/-- A wait for something that begins behind the deadline ends at once, without any call. -/
lemma settle_of_expired {target : Target} {back : τ} (htarget : s.target? = some target)
    (hfuel : 0 < fuel) (hexpired : now + s.backoff.timeout ≤ back) :
    ∃ e, s.settle op feed fuel now back = some e ∧
      e.outcome = .error (.expired (target.reason s.name)) ∧ ∀ c, e.times c = [] := by
  have hpast : (s.race (.starting now s.backoff.timeout) target).poll.deadline.expired back
      = true := by
    simpa [race, Deadline.starting, Deadline.expired] using hexpired
  rw [settle, await_of_target htarget, Race.run_of_expired hfuel hpast]
  exact ⟨_, rfl, rfl, fun _ => rfl⟩

variable (op feed fuel now) in
/-- With nothing to wait for, the object is read for the rules alone, once, if there are any. -/
lemma settle_of_no_target (htarget : s.target? = none) (back : τ) :
    ∃ e, s.settle op feed fuel now back = some e ∧ (s.rules = [] → e.outcome = .ok ()) ∧
      ∀ c, e.times c = if c = .check ∧ s.rules ≠ [] then [back] else [] := by
  rw [settle, await_of_no_target htarget]
  by_cases hrules : s.rules = []
  · rw [if_pos (by simp [hrules])]
    refine ⟨_, rfl, fun _ => rfl, fun c => ?_⟩
    rw [if_neg (by simp [hrules])]
    rfl
  · rw [if_neg (by simpa using hrules)]
    refine ⟨_, rfl, fun h => absurd h hrules, fun c => ?_⟩
    have htimes : ((Race.checkOnce s.name s.rules (feed.check 0 0) back).after
        [.notice (.settling op s.name s.strategy? s.backoff.timeout)]).times c
          = ((feed.check 0 0).events .check back).filterMap (Event.timeOf? c) := rfl
    rw [htimes, Reply.times_events]
    simp only [hrules, eq_comm, ne_eq, not_false_eq_true, and_true]

/-- The writes and the wait that has followed them, with the value that was written. -/
def joined (first : Ended τ α) (v : α) (e : Ended τ Unit) : Ended τ α :=
  ⟨e.time, e.outcome.map fun _ => v, first.events ++ e.events⟩

omit [GrowingScale τ] in
lemma times_joined {call : Call} (h : first.times call = []) (v : α) (e : Ended τ Unit) :
    (joined first v e).times call = e.times call := by
  have hnone : first.events.filterMap (Event.timeOf? call) = [] := h
  rw [Ended.times, joined, List.filterMap_append, hnone, List.nil_append, Ended.times]

/-- Writes that succeed are followed by the wait. -/
lemma apply_of_ok (hop : op ≠ .delete) (h : s.write writes fuel now = some first) {v : α}
    (hfirst : first.outcome = .ok v) :
    s.apply op writes feed fuel now
      = (s.settle op feed fuel now first.time).map (joined first v) := by
  rw [apply, if_neg hop, h]
  simp only [Option.bind_eq_bind, Option.bind_some, followedBy, hfirst]
  rfl

/-- The first attempt that succeeds is the last one, and all before it fail. -/
lemma first_success (h : s.write writes fuel now = some first) {v : α}
    (hfirst : first.outcome = .ok v) :
    ∃ n, (writes n).result = .ok v ∧ (∀ j < n, ∀ w, (writes j).result ≠ .ok w) ∧
      (first.times .write).length = n + 1 ∧
        ∃ t, (first.times .write).getLast? = some t ∧
          first.time = TimeScale.pause t (writes n).delay := by
  obtain ⟨n, hends⟩ := Retry.endsWith_of_run h
  have houtcome := hends.outcome
  refine ⟨n, ?_, ?_, hends.writes, hends.back⟩
  · rw [hfirst] at houtcome
    generalize (writes n).result = result at houtcome ⊢
    cases houtcome
    rfl
  · intro j hj w hw
    obtain ⟨f, hf, -⟩ := hends.failing j (Nat.zero_le j) hj
    rw [hw] at hf
    cases hf

/-- Writes that fail have failed for good, or are as many as were allowed. -/
lemma write_failure (h : s.write writes fuel now = some first) {f : Failure}
    (hfirst : first.outcome = .error f) :
    ∃ n, (writes n).result = .error (.permanent f) ∨
      ∃ last, (writes n).result = .error last ∧ f = .exhausted (n + 1) last := by
  obtain ⟨n, hends⟩ := Retry.endsWith_of_run h
  have houtcome := hends.outcome
  rw [hfirst] at houtcome
  generalize hresult : (writes n).result = result at houtcome
  cases houtcome with
  | forGood => exact ⟨n, Or.inl hresult⟩
  | exhausted => exact ⟨n, Or.inr ⟨_, hresult, rfl⟩⟩

lemma times_of_write (h : s.write writes fuel now = some first) :
    ∀ call ≠ .write, first.times call = [] := by
  obtain ⟨n, hends⟩ := Retry.endsWith_of_run h
  exact hends.only

section Success

variable {v : α} (hop : op ≠ .delete) (hwrite : s.write writes fuel now = some first)
  (hfirst : first.outcome = .ok v)
include hop hwrite hfirst

/-- All that follows the writes are calls of the wait, and no other value than the one written is
given. -/
lemma apply_ends {e : Ended τ α} (he : s.apply op writes feed fuel now = some e) :
    (∀ w, e.outcome = .ok w → w = v) ∧
      ∃ after, e.events = first.events ++ after ∧
        ∀ call, ∀ t ∈ after.filterMap (Event.timeOf? call),
          s.Calls (.starting now s.backoff.timeout) feed first.time call t := by
  rw [apply_of_ok hop hwrite hfirst] at he
  obtain ⟨e', he', rfl⟩ := Option.map_eq_some_iff.mp he
  obtain ⟨e'', he'', -, hsame⟩ := exists_await_of_settle he'
  refine ⟨?_, e'.events, rfl, ?_⟩
  · intro w hw
    obtain ⟨_, -, rfl⟩ := map_eq_ok_iff.mp hw
    rfl
  · intro call t ht
    exact calls_of_await he'' call t (hsame call ▸ ht)

variable (feed) in
/-- When the write comes back behind the deadline, the wait for a target ends at once. -/
lemma apply_of_expired {target : Target} (htarget : s.target? = some target)
    (hexpired : now + s.backoff.timeout ≤ first.time) :
    ∃ e, s.apply op writes feed fuel now = some e ∧
      e.outcome = .error (.expired (target.reason s.name)) ∧
      ∀ call ≠ .write, e.times call = [] := by
  obtain ⟨e, he, houtcome, hnone⟩ :=
    settle_of_expired op feed htarget (pos_of_write hwrite) hexpired
  rw [apply_of_ok hop hwrite hfirst, he]
  refine ⟨joined first v e, rfl, ?_, fun call hcall => ?_⟩
  · rw [joined, houtcome]
    rfl
  · rw [times_joined (times_of_write hwrite call hcall), hnone]

/-- With nothing to wait for, there is one check at most. -/
lemma apply_of_no_target (htarget : s.target? = none) :
    ∃ e, s.apply op writes feed fuel now = some e ∧ (s.rules = [] → e.outcome = .ok v) ∧
      e.times .read = [] ∧ e.times .check = if s.rules = [] then [] else [first.time] := by
  obtain ⟨e, he, hok, hcalls⟩ :=
    settle_of_no_target op feed fuel now htarget first.time
  have htimes : ∀ call ≠ .write, (joined first v e).times call
      = if call = .check ∧ s.rules ≠ [] then [first.time] else [] := by
    intro call hcall
    rw [times_joined (times_of_write hwrite call hcall), hcalls]
  rw [apply_of_ok hop hwrite hfirst, he]
  refine ⟨joined first v e, rfl, fun h => ?_, ?_, ?_⟩
  · rw [joined, hok h]
    rfl
  · rw [htimes .read (by decide)]
    exact if_neg (by simp)
  · rw [htimes .check (by decide)]
    by_cases h : s.rules = []
    · rw [if_neg (by simp [h]), if_pos h]
    · rw [if_pos ⟨rfl, h⟩, if_neg h]

end Success

end Apply

/-- Whatever a configuration and the settings ask for, a session that does not delete writes first:
all writes but the last one fail, and nothing is read while they are made. If the last one fails,
that is all; otherwise it is the first one that succeeds, no write follows it, and its value is
given if the session succeeds. What is read afterwards is not read before the write has come back,
and not behind the deadline if there is something to wait for, even if the wait never ends; where
the write has come back behind it, the wait ends at once. With nothing to wait for, the object is
read once if there are rules, and not at all otherwise. -/
theorem reads_follow_first_success [GrowingScale τ] [Chronological τ] (seconds : Binary64 → τ)
    (name : Text) (c : Config) (settings : Settings) (shape? : Option Shape) (hints : Hints)
    (op : Operation) (hop : op ≠ .delete) (writes : Source τ α) (feed : Feed τ) (now : τ) :
    let s : Session τ := (ofConfig name c settings shape? hints (c.timeouts.of op)).map seconds
    let timeout := seconds (c.timeouts.of op)
    ∀ fuel,
      (s.write writes fuel now = none → s.apply op writes feed fuel now = none) ∧
      ∀ first, s.write writes fuel now = some first →
        (∀ call ≠ .write, first.times call = []) ∧
        (∀ f, first.outcome = .error f →
          s.apply op writes feed fuel now = some first ∧
            ∃ n, (writes n).result = .error (.permanent f) ∨
              ∃ last, (writes n).result = .error last ∧ f = .exhausted (n + 1) last) ∧
        ∀ v, first.outcome = .ok v →
          (∃ n, (writes n).result = .ok v ∧ (∀ j < n, ∀ w, (writes j).result ≠ .ok w) ∧
            (first.times .write).length = n + 1 ∧
              ∃ t, (first.times .write).getLast? = some t ∧
                first.time = TimeScale.pause t (writes n).delay) ∧
          (∀ e, s.apply op writes feed fuel now = some e →
            (∀ w, e.outcome = .ok w → w = v) ∧
            ∃ after, e.events = first.events ++ after ∧
              ∀ call, ∀ t ∈ after.filterMap (Event.timeOf? call),
                s.Calls (.starting now timeout) feed first.time call t) ∧
          (∀ call t, s.Calls (.starting now timeout) feed first.time call t →
            call ≠ .write ∧ first.time ≤ t ∧ (c.strategy? ≠ none → t < now + timeout)) ∧
          (c.strategy? ≠ none → now + timeout ≤ first.time →
            ∃ e strategy, s.apply op writes feed fuel now = some e ∧
              Target.ofBlock? shape? hints c.wait? = some (.state strategy) ∧
              e.outcome = .error (.expired strategy.reason) ∧
              ∀ call ≠ .write, e.times call = []) ∧
          (c.strategy? = none →
            ∃ e, s.apply op writes feed fuel now = some e ∧ (c.rules = [] → e.outcome = .ok v) ∧
              e.times .read = [] ∧ e.times .check = if c.rules = [] then [] else [first.time]) := by
  intro s timeout fuel
  have htarget : s.target? = Target.ofBlock? shape? hints c.wait? := rfl
  refine ⟨apply_of_pending hop, fun first hwrite => ?_⟩
  refine ⟨times_of_write hwrite, fun f hfirst => ?_, fun v hfirst => ?_⟩
  · exact ⟨apply_of_error hop hwrite hfirst, write_failure hwrite hfirst⟩
  refine ⟨first_success hwrite hfirst, fun e => apply_ends hop hwrite hfirst, ?_, ?_, ?_⟩
  · intro call t hcall
    by_cases hstrategy : c.strategy? = none
    · obtain ⟨rfl, rfl⟩ := hcall.eq_of_no_target (ofBlock?_eq_none shape? hints hstrategy)
      exact ⟨by decide, Chronological.le_refl _, fun h => absurd hstrategy h⟩
    · obtain ⟨strategy, hblock⟩ := exists_strategy_of_strategy? shape? hints hstrategy
      obtain ⟨hcalled, hle, hexpired⟩ := hcall.timely (htarget.trans hblock)
      exact ⟨hcalled, hle, fun _ => Deadline.lt_of_not_expired hexpired⟩
  · intro hstrategy hlate
    obtain ⟨strategy, hblock⟩ := exists_strategy_of_strategy? shape? hints hstrategy
    obtain ⟨e, he, houtcome, hnone⟩ :=
      apply_of_expired feed hop hwrite hfirst (htarget.trans hblock) hlate
    exact ⟨e, strategy, he, hblock, houtcome, hnone⟩
  · intro hstrategy
    exact apply_of_no_target hop hwrite hfirst (ofBlock?_eq_none shape? hints hstrategy)

/-- A wait for a condition, of ten seconds. -/
def shortConfig : Config := ⟨some (.conditions ⟨"Ready", "True"⟩ []), none, .all (.ofNat 10)⟩

/-- The first write is refused, the second one succeeds, each after four seconds. -/
def slowWrites : Source Extended Unit
  | 0     => ⟨.error (.refused ⟨some 409, none⟩), .ofRat 4, []⟩
  | _ + 1 => ⟨.ok (), .ofRat 4, []⟩

/-- Every read finds the object empty. -/
def emptyFeed : Feed Extended := .shared fun _ => ⟨.ok (.map []), 0, []⟩

def slowSession : Session Extended :=
  (ofConfig "web" shortConfig .default none [] (shortConfig.timeouts.of .create)).map
    Binary64.seconds

/-- With the pause between the writes, they take longer than ten seconds. -/
lemma slowSession_write :
    ∃ first, slowSession.write slowWrites 2 0 = some first ∧ first.outcome = .ok () ∧
      0 + Binary64.seconds (shortConfig.timeouts.of .create) ≤ first.time := by
  have hfirst : (slowSession.write slowWrites 2 0).any (fun e => e.outcome.toOption = some () ∧
      0 + Binary64.seconds (shortConfig.timeouts.of .create) ≤ e.time) = true := by
    decide +kernel
  cases hwrite : slowSession.write slowWrites 2 0 with
  | none =>
    rw [hwrite] at hfirst
    cases hfirst
  | some first =>
    rw [hwrite] at hfirst
    obtain ⟨houtcome, hlate⟩ := of_decide_eq_true hfirst
    refine ⟨first, rfl, ?_, hlate⟩
    cases hresult : first.outcome with
    | ok => rfl
    | error f =>
      rw [hresult] at houtcome
      cases houtcome

theorem slowSession_expires :
    Operation.create ≠ .delete ∧
      ∃ e, slowSession.apply .create slowWrites emptyFeed 2 0 = some e ∧
        e.outcome = .error (.expired "conditions") ∧ ∀ call ≠ .write, e.times call = [] := by
  refine ⟨by decide, ?_⟩
  obtain ⟨first, hwrite, hfirst, hlate⟩ := slowSession_write
  obtain ⟨-, hends⟩ := reads_follow_first_success Binary64.seconds "web" shortConfig .default none
    [] .create (by decide) slowWrites emptyFeed 0 2
  obtain ⟨-, -, hok⟩ := hends first hwrite
  obtain ⟨-, -, -, hexpired, -⟩ := hok () hfirst
  obtain ⟨e, strategy, he, hblock, houtcome, hnone⟩ := hexpired (by decide) hlate
  cases hblock
  exact ⟨e, he, houtcome, hnone⟩

end Session

end Settle
