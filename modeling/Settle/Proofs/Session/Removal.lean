import Settle.Cluster.Resource
import Settle.Proofs.Config.Accepted
import Settle.Proofs.Poll.Replies
import Settle.Proofs.Session.Ending
import Settle.Proofs.Session.Order

/-!
# Confirming a deletion

A session that deletes an object confirms that it is gone only by a read that finds it gone and
that was due before the deadline. Nothing else that a read brings ends the wait or is heard of, and
neither what the configuration waits for nor what it aborts on makes a difference.
-/

namespace Settle

open Extended

namespace Resource

variable {τ α : Type}

/-- A read finds that the object is gone. -/
def FindsGone (result : Except Failure α) : Prop := ∃ name, result = .error (.gone name)

/-- The server says that there is no such object. -/
def SaysAbsent (result : Except Failure α) : Prop :=
  ∃ e : Refusal, result = .error (.refused e) ∧ e.isAbsence = true

/-- A read finds the object gone if the server says that there is none. -/
theorem findsGone_read_iff (r : Resource) (name : Document) (reply : Reply τ α) :
    FindsGone (r.read name reply).result ↔ SaysAbsent reply.result ∨ FindsGone reply.result := by
  obtain ⟨result, delay, notices⟩ := reply
  unfold read FindsGone SaysAbsent
  rcases result with (_ | _) | _
  all_goals try simp
  split <;> simp_all [told]

end Resource

open Resource (FindsGone)

/-! ### The wait -/

section Wait

lemma Target.judge_removal_eq_some_iff {result : Except Failure Value} {o : Except Failure Unit} :
    Target.judge .removal result = some o ↔ FindsGone result ∧ o = .ok () := by
  unfold judge FindsGone
  split <;> simp_all [eq_comm]

lemma Target.judge_removal_eq_none_iff {result : Except Failure Value} :
    Target.judge .removal result = none ↔ ¬ FindsGone result := by
  rw [Option.eq_none_iff_forall_ne_some]
  simp [judge_removal_eq_some_iff]

/-- The wait for an object to be gone ends when a read finds it gone that is due before the
deadline, and expires if there is none. -/
lemma Poll.exists_removal_end {p : Poll Extended} (htarget : p.target = .removal)
    {start timeout : ℚ} (hdeadline : p.deadline = .starting (ofRat start) (ofRat timeout))
    (hinterval : 0 < p.interval) {source : Source Extended Value}
    (hdelay : ∀ n, 0 ≤ (source n).delay) (now : Extended) :
    let due := p.due source now
    let expiry := ofRat (start + timeout)
    ∃ fuel e, (∀ more ≥ fuel, p.run source more now = some e) ∧
      (∃ m, e.times .read = (List.range m).map due ∧
        ∀ j, j < m ↔ due j < expiry ∧ ∀ i < j, ¬ FindsGone (source i).result) ∧
      ((∃ n, due n < expiry ∧ FindsGone (source n).result ∧ e.time = due n + (source n).delay) ∧
          e.outcome = .ok () ∨
        (¬ ∃ n, due n < expiry ∧ FindsGone (source n).result) ∧
          e.outcome = .error (.expired ("deletion of " ++ p.name)) ∧ expiry ≤ e.time) := by
  intro due expiry
  have hsteady := steady_of_pos hdeadline hinterval hdelay
  obtain ⟨late, hlate⟩ := exists_late hdeadline hinterval hdelay now
  obtain ⟨m, e, hrun, htimes, hmade, hend⟩ := hsteady.exists_end hlate
  have hopen : ∀ n, p.Open source n ↔ ∀ i < n, ¬ FindsGone (source i).result := by
    simp only [Open, htarget, Target.judge_removal_eq_none_iff, implies_true]
  have hintime : ∀ n, p.deadline.expired (due n) = false ↔ due n < expiry := by
    simp only [hdeadline, Deadline.not_expired_starting_iff, expiry, implies_true]
  have hreads : ∀ j, j < m ↔ due j < expiry ∧ ∀ i < j, ¬ FindsGone (source i).result := by
    intro j
    rw [hmade, ← hopen, ← hintime]
    exact ⟨fun h => ⟨h.inTime, h.isOpen⟩, fun h => ⟨h.1, h.2⟩⟩
  refine ⟨2 * late + 1, e, hrun, ⟨m, htimes, hreads⟩, ?_⟩
  obtain ⟨i, rfl, hjudge, htime⟩ | ⟨hundecided, houtcome, hexpired⟩ := hend
  · rw [htarget, Target.judge_removal_eq_some_iff] at hjudge
    have hi := ((hreads i).mp (Nat.lt_succ_self i)).1
    exact Or.inl ⟨⟨i, hi, hjudge.1, htime⟩, hjudge.2⟩
  · rw [htarget] at houtcome
    rw [hdeadline, Deadline.expired_starting_iff] at hexpired
    refine Or.inr ⟨?_, houtcome, hexpired⟩
    rintro ⟨n, hn, hgone⟩
    -- no read before the `m`-th one finds the object gone, so that one is due behind the deadline
    have hnone := (hopen m).mp hundecided
    have hlast : p.deadline.expired (due m) = true := by
      rw [← Bool.not_eq_false, hintime]
      exact fun hlt => lt_irrefl m ((hreads m).mpr ⟨hlt, hnone⟩)
    have hlt : n < m := by
      by_contra hle
      rw [← hintime, hsteady.late_of_le hlast (not_lt.mp hle)] at hn
      cases hn
    exact hnone n hlt hgone

end Wait

namespace Session

/-! ### Deleting and waiting -/

section Delete

variable {τ α : Type}

/-- The wait for the object to be gone as a row of reads. -/
def removal [TimeScale τ] (s : Session τ) (deadline : Deadline τ) : Poll τ :=
  ⟨.removal, s.name, deadline, s.removalPause⟩

variable [GrowingScale τ] {s : Session τ} {told? : Option τ} {writes : Source τ α}
  {reads : Source τ Value} {fuel : Nat} {now : τ} {first : Ended τ α}

/-- The wait that follows the writes, with the notice in front of it. -/
def leave (s : Session τ) (told? : Option τ) (reads : Source τ Value) (fuel : Nat) (now back : τ) :
    Option (Ended τ Unit) :=
  ((s.removal (.starting now s.backoff.timeout)).run reads fuel back).map
    (·.after [.notice (.leaving s.name told?)])

lemma delete_of_pending (h : s.write writes fuel now = none) :
    s.delete told? writes reads fuel now = none := by
  rw [delete, h]
  rfl

/-- Writes that fail are all there is. -/
lemma delete_of_error (h : s.write writes fuel now = some first) {f : Failure}
    (hfirst : first.outcome = .error f) : s.delete told? writes reads fuel now = some first := by
  rw [delete, h]
  simp only [Option.bind_eq_bind, Option.bind_some, followedBy, hfirst]

/-- Writes that succeed are followed by the wait. -/
lemma delete_of_ok (h : s.write writes fuel now = some first) {v : α}
    (hfirst : first.outcome = .ok v) :
    s.delete told? writes reads fuel now
      = (s.leave told? reads fuel now first.time).map (joined first v) := by
  rw [delete, h]
  simp only [Option.bind_eq_bind, Option.bind_some, followedBy, hfirst]
  rfl

/-- Reads that take as long, and find the object gone or not, make no difference. -/
lemma delete_silent {reads' : Source τ Value} (hdelay : ∀ n, (reads' n).delay = (reads n).delay)
    (hgone : ∀ n, FindsGone (reads' n).result ↔ FindsGone (reads n).result) :
    (s.delete told? writes reads' fuel now).map Ended.silent
      = (s.delete told? writes reads fuel now).map Ended.silent := by
  cases hwrite : s.write writes fuel now with
  | none => rw [delete_of_pending hwrite, delete_of_pending hwrite]
  | some first =>
    cases hfirst : first.outcome with
    | error f => rw [delete_of_error hwrite hfirst, delete_of_error hwrite hfirst]
    | ok v =>
      have halike : (s.removal (.starting now s.backoff.timeout)).Alike reads reads' := by
        refine ⟨hdelay, fun n => Option.ext fun o => ?_⟩
        simp only [removal, Target.judge_removal_eq_some_iff, hgone]
      have hrun := Poll.run_alike halike fuel first.time
      have hjoined : ∀ e : Ended τ Unit,
          (joined first v (e.after [.notice (.leaving s.name told?)])).silent
            = joined first.silent v e.silent := by
        intro e
        simp [joined, Ended.silent, Ended.after, Event.isAction]
      rw [delete_of_ok hwrite hfirst, delete_of_ok hwrite hfirst]
      simp only [leave, Option.map_map, Function.comp_def, hjoined]
      simpa only [Option.map_map, Function.comp_def]
        using congrArg (Option.map (joined first.silent v)) hrun

/-- Of the configuration, only the timeout of a deletion counts. -/
lemma delete_congr (seconds : Binary64 → τ) {name : Text} {c c' : Config} {settings : Settings}
    (h : c'.timeouts.delete? = c.timeouts.delete?) (shape? shape?' : Option Shape)
    (hints hints' : Hints) :
    ((ofConfig name c' settings shape?' hints' (c'.timeouts.of .delete)).map seconds).delete
        (c'.timeouts.delete?.map seconds) writes reads fuel now
      = ((ofConfig name c settings shape? hints (c.timeouts.of .delete)).map seconds).delete
        (c.timeouts.delete?.map seconds) writes reads fuel now := by
  have htimeout : c'.timeouts.of .delete = c.timeouts.of .delete := by
    simp only [Timeouts.of, Timeouts.given?, h]
  rw [h, htimeout]
  rfl

end Delete

/-! ### How it ends -/

section Ends

variable {α : Type} {s : Session Extended} {timeout : ℚ}
  (htimeout : s.backoff.timeout = ofRat timeout) (hpause : 0 < s.removalPause)
  {reads : Source Extended Value} (hreads : ∀ n, 0 ≤ (reads n).delay)
include htimeout hpause hreads

/-- After writes that succeed, the session ends as the wait does. -/
lemma exists_end_of_ok (told? : Option Extended) {writes : Source Extended α} {start : ℚ}
    {fuel : Nat} {first : Ended Extended α} {v : α}
    (hwrite : ∀ more ≥ fuel, s.write writes more (ofRat start) = some first)
    (hfirst : first.outcome = .ok v) :
    let due := (s.removal (.starting (ofRat start) s.backoff.timeout)).due reads first.time
    let expiry := ofRat start + s.backoff.timeout
    ∃ fuel' e, (∀ more ≥ fuel', s.delete told? writes reads more (ofRat start) = some e) ∧
      (∃ m, e.times .read = (List.range m).map due ∧
        ∀ j, j < m ↔ due j < expiry ∧ ∀ i < j, ¬ FindsGone (reads i).result) ∧
      ((∃ n, due n < expiry ∧ FindsGone (reads n).result ∧ e.time = due n + (reads n).delay) ∧
          e.outcome = .ok v ∨
        (¬ ∃ n, due n < expiry ∧ FindsGone (reads n).result) ∧
          e.outcome = .error (.expired ("deletion of " ++ s.name)) ∧ expiry ≤ e.time) := by
  intro due expiry
  have hdeadline : (s.removal (.starting (ofRat start) s.backoff.timeout)).deadline
      = .starting (ofRat start) (ofRat timeout) := by rw [removal, htimeout]
  have hexpiry : expiry = ofRat (start + timeout) := by rw [ofRat_add, ← htimeout]
  obtain ⟨fuel', e, hrun, ⟨m, htimes, hmade⟩, hend⟩ :=
    Poll.exists_removal_end rfl hdeadline hpause hreads first.time
  rw [hexpiry]
  refine ⟨max fuel fuel', joined first v (e.after [.notice (.leaving s.name told?)]), ?_,
    ⟨m, ?_, hmade⟩, ?_⟩
  · intro more hmore
    have hmost := max_le_iff.mp hmore
    rw [delete_of_ok (hwrite more hmost.1) hfirst, leave, hrun more hmost.2]
    rfl
  · rw [times_joined (times_of_write (hwrite fuel le_rfl) .read (by decide)), ← htimes]
    rfl
  · refine hend.imp (And.imp_right fun hok => ?_) (And.imp_right (And.imp_left fun herror => ?_))
    · rw [joined, Ended.after_outcome, hok]
      rfl
    · rw [joined, Ended.after_outcome, herror]
      rfl

end Ends

/-- The backoff that accepted settings ask for. -/
lemma lasting_of_sound {settings : Settings} (h : settings.Sound) (name : Text) (c : Config)
    (shape? : Option Shape) (hints : Hints) (timeout : Binary64) :
    ((ofConfig name c settings shape? hints timeout).map Binary64.seconds).backoff.Lasting where
  initial_pos   := Binary64.seconds_pos h.initialInterval
  limit_pos     := Binary64.seconds_pos h.maxInterval
  one_le_factor := Binary64.one_le_seconds h.factor

/-- Whatever settings and configuration are accepted, a session that deletes comes to an end if
the timeout of a deletion is finite. It succeeds exactly if the deletion has been carried out and
some read finds the object gone that is due before the deadline, where the first read is due when
the deletion has come back and each one after it a pause behind the end of the one before it. The
reads that are made are those that are due before the deadline and behind no read that has found
the object gone. If the deletion fails, that is all, and nothing is read; otherwise a session that
does not succeed expires. What reads bring otherwise makes no difference, nor does any part of the
configuration but the timeout of a deletion. -/
theorem removal_confirmed_by_read {α : Type} {homes : Text → Option Text} {src : Sources}
    {settings : Settings} (hsettings : Settings.ofSources homes src = .ok settings) (name : Text)
    (c : Config) (hfinite : (c.timeouts.of .delete).isFinite = true) (shape? : Option Shape)
    (hints : Hints) (writes : Source Extended α) (reads : Source Extended Value)
    (hreads : ∀ n, 0 ≤ (reads n).delay) (start : ℚ) :
    let session (c : Config) (shape? : Option Shape) (hints : Hints) : Session Extended :=
      (ofConfig name c settings shape? hints (c.timeouts.of .delete)).map Binary64.seconds
    let told? (c : Config) : Option Extended := c.timeouts.delete?.map Binary64.seconds
    let s := session c shape? hints
    let expiry := ofRat start + (c.timeouts.of .delete).seconds
    (∃ fuel first e,
      (∀ more ≥ fuel, s.write writes more (ofRat start) = some first ∧
        s.delete (told? c) writes reads more (ofRat start) = some e) ∧
      let due := (s.removal (.starting (ofRat start) s.backoff.timeout)).due reads first.time
      ((∃ v, e.outcome = .ok v) ↔ (∃ v, first.outcome = .ok v) ∧
        ∃ n, due n < expiry ∧ FindsGone (reads n).result) ∧
      (∀ f, first.outcome = .error f → e = first ∧ (∀ call ≠ .write, e.times call = []) ∧
        ∃ n, (writes n).result = .error (.permanent f) ∨
          ∃ last, (writes n).result = .error last ∧ f = .exhausted (n + 1) last) ∧
      ∀ v, first.outcome = .ok v →
        (∃ m, e.times .read = (List.range m).map due ∧
          ∀ j, j < m ↔ due j < expiry ∧ ∀ i < j, ¬ FindsGone (reads i).result) ∧
        (∀ w, e.outcome = .ok w →
          ∃ n, due n < expiry ∧ FindsGone (reads n).result ∧ e.time = due n + (reads n).delay) ∧
        ∀ f, e.outcome = .error f → f = .expired ("deletion of " ++ name) ∧ expiry ≤ e.time) ∧
    (∀ reads' : Source Extended Value, (∀ n, (reads' n).delay = (reads n).delay) →
      (∀ n, FindsGone (reads' n).result ↔ FindsGone (reads n).result) → ∀ fuel,
        (s.delete (told? c) writes reads' fuel (ofRat start)).map Ended.silent
          = (s.delete (told? c) writes reads fuel (ofRat start)).map Ended.silent) ∧
    ∀ (c' : Config) (shape?' : Option Shape) (hints' : Hints),
      c'.timeouts.delete? = c.timeouts.delete? → ∀ fuel,
        (session c' shape?' hints').delete (told? c') writes reads fuel (ofRat start)
          = s.delete (told? c) writes reads fuel (ofRat start) := by
  intro session told? s expiry
  refine ⟨?_, fun reads' hdelay hgone fuel => delete_silent hdelay hgone,
    fun c' shape?' hints' h fuel => delete_congr Binary64.seconds h shape? shape?' hints hints'⟩
  have hsound := Settings.sound_of_ofSources hsettings
  have htimeout : s.backoff.timeout = ofRat _ := Binary64.seconds_of_isFinite hfinite
  have hpause : 0 < s.removalPause := Binary64.seconds_pos hsound.removalInterval
  have hlasting : s.backoff.Lasting := lasting_of_sound hsound name c shape? hints _
  have hwrites : ∃ fuel first, ∀ more ≥ fuel, s.write writes more (ofRat start) = some first :=
    Retry.exists_run hlasting htimeout writes start
  obtain ⟨fuel, first, hwrite⟩ := hwrites
  cases hfirst : first.outcome with
  | error f =>
    refine ⟨fuel, first, first, ?_, ?_, ?_, ?_⟩
    · exact fun more hmore => ⟨hwrite more hmore, delete_of_error (hwrite more hmore) hfirst⟩
    · simp [hfirst]
    · intro f' hf'
      exact ⟨rfl, times_of_write (hwrite fuel le_rfl), write_failure (hwrite fuel le_rfl) hf'⟩
    · simp [hfirst]
  | ok v =>
    obtain ⟨fuel', e, hdelete, hmade, hend⟩ :=
      exists_end_of_ok htimeout hpause hreads (told? c) hwrite hfirst
    refine ⟨max fuel fuel', first, e, ?_, ?_, ?_, fun _ _ => ⟨hmade, ?_⟩⟩
    · exact fun more hmore => ⟨hwrite more (le_of_max_le_left hmore),
        hdelete more (le_of_max_le_right hmore)⟩
    · obtain ⟨⟨n, hn, hgone, -⟩, houtcome⟩ | ⟨hnone, houtcome, -⟩ := hend
      · exact iff_of_true ⟨v, houtcome⟩ ⟨⟨v, hfirst⟩, n, hn, hgone⟩
      · exact iff_of_false (by simp [houtcome]) fun h => hnone h.2
    · simp [hfirst]
    · obtain ⟨hfound, houtcome⟩ | ⟨-, houtcome, hlate⟩ := hend
      · exact ⟨fun _ _ => hfound, by simp [houtcome]⟩
      · exact ⟨by simp [houtcome], fun f hf => ⟨Except.error.inj (hf.symm.trans houtcome), hlate⟩⟩

/-- An object of no namespace. -/
def loneResource : Resource := ⟨.str "v1", .str "Pod", .null⟩

/-- Objects need ten seconds at most to be deleted, whatever else is waited for. -/
def leavingConfig : Config :=
  ⟨some (.conditions ⟨"Ready", "True"⟩ []), none, ⟨none, none, some (.ofNat 10)⟩⟩

/-- The server accepts a deletion after one second. -/
def leavingWrites : Source Extended Unit := fun _ =>
  loneResource.remove (.str "web") "Background" ⟨.ok (), ofRat 1, []⟩

/-- The object is still there, then the server is out of order, then the object is not found. -/
def leavingReads : Source Extended Value
  | 0     => loneResource.read (.str "web") ⟨.ok (.map []), 0, []⟩
  | 1     => loneResource.read (.str "web") ⟨.error (.refused ⟨some 500, none⟩), 0, []⟩
  | _ + 2 => loneResource.read (.str "web") ⟨.error (.refused ⟨some 404, none⟩), 0, []⟩

theorem leavingReads_confirm :
    Settings.ofSources (fun _ => none) ⟨[], [], []⟩ = .ok .default ∧
      (leavingConfig.timeouts.of .delete).isFinite = true ∧
      (∀ n, 0 ≤ (leavingReads n).delay) ∧
      ∃ fuel e,
        ((ofConfig "web" leavingConfig .default none []
            (leavingConfig.timeouts.of .delete)).map Binary64.seconds).delete
          (leavingConfig.timeouts.delete?.map Binary64.seconds) leavingWrites leavingReads fuel 0
            = some e ∧ ∃ v, e.outcome = .ok v := by
  have hsettings : Settings.ofSources (fun _ => none) ⟨[], [], []⟩ = .ok .default := rfl
  have hfinite : (leavingConfig.timeouts.of .delete).isFinite = true := by decide +kernel
  have hdelay : ∀ n, 0 ≤ (leavingReads n).delay := by
    rintro (_ | _ | n) <;> exact Chronological.le_refl _
  refine ⟨hsettings, hfinite, hdelay, ?_⟩
  obtain ⟨⟨fuel, first, e, hruns, hok, -⟩, -⟩ := removal_confirmed_by_read hsettings "web"
    leavingConfig hfinite none [] leavingWrites leavingReads hdelay 0
  obtain ⟨hwrite, hdelete⟩ := hruns (fuel + 1) (Nat.le_succ fuel)
  -- the first write succeeds, whatever the fuel
  obtain rfl : _ = first := Option.some.inj hwrite
  refine ⟨fuel + 1, e, hdelete, hok.mpr ⟨⟨(), rfl⟩, 2, ?_, ?_⟩⟩
  · decide +kernel
  · exact (loneResource.findsGone_read_iff _ _).mpr (Or.inl ⟨_, rfl, rfl⟩)

end Session

end Settle
