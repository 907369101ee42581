import Scrim.Proofs.Timely

/-!
# Delivery of tasks

A scheduler keeps its tasks as they were posted and looks for the next one each time. A `Docket` is
the account that a patient observer would keep instead: a numbered slip for every task that was ever
posted, and which of them were cancelled or delivered since. The queue is at any time the slips
that still wait (`Scheduler.Agrees`), and what the search finds is the first of them in order, by
due time and of one due time by number.

So taking tasks until none is due gives out the waiting slips whose time has come, each once and in
that order, and leaves the others queued as they were (`Scheduler.delivers`).
-/

namespace Scrim

/-! ## Taking all that is due -/

namespace Scheduler

/-- The tasks that are taken until none is due any more, and the scheduler that is left. -/
def drain (scheduler : Scheduler) : List Task × Scheduler :=
  match _h : scheduler.popDue with
  | none => ([], scheduler)
  | some (task, rest) =>
    let (tasks, last) := drain rest
    (task :: tasks, last)
termination_by scheduler.queue.length
decreasing_by
  obtain ⟨before, posted, after, hQueue, rfl, -⟩ := popDue_eq_some _h
  simp [hQueue]

theorem drain_of_none {scheduler : Scheduler} (h : scheduler.popDue = none) :
    scheduler.drain = ([], scheduler) := by
  rw [drain]
  split
  · rfl
  · next hSome => cases h.symm.trans hSome

theorem drain_of_some {scheduler rest : Scheduler} {task : Task}
    (h : scheduler.popDue = some (task, rest)) :
    scheduler.drain = (task :: rest.drain.1, rest.drain.2) := by
  rw [drain]
  split
  · next hNone => cases h.symm.trans hNone
  · next hSome =>
    obtain ⟨rfl, rfl⟩ := Prod.mk.inj (Option.some.inj (h.symm.trans hSome))
    rfl

end Scheduler

/-! ## Slips -/

/-- A task that was posted, with its number in the order of posting. -/
structure Slip where
  number : Nat
  due : Nat
  task : Task
deriving DecidableEq

namespace Slip

/-- Due earlier, or due at the same instant and posted earlier. -/
def Before (slip other : Slip) : Prop :=
  slip.due < other.due ∨ slip.due = other.due ∧ slip.number < other.number

instance (slip other : Slip) : Decidable (slip.Before other) :=
  inferInstanceAs (Decidable (_ ∨ _))

/-- The entry of a slip in a queue. Schedulers give numbers from one on. -/
def posted (slip : Slip) : Posted := ⟨slip.due, slip.number + 1, slip.task⟩

theorem precedes_posted_iff {a b : Slip} : a.posted.precedes b.posted = true ↔ a.Before b := by
  rw [Posted.precedes_iff, Before, posted, posted, Nat.add_lt_add_iff_right]

theorem not_before_trans {a b c : Slip} (h : ¬b.Before a) (h' : ¬c.Before b) : ¬c.Before a := by
  unfold Before at *
  omega

theorem before_of_not_before {a b : Slip} (h : ¬b.Before a) (hNumber : a.number ≠ b.number) :
    a.Before b := by
  unfold Before at *
  omega

theorem before_asymm {a b : Slip} (h : a.Before b) : ¬b.Before a := by
  unfold Before at *
  omega

theorem due_le_of_before {a b : Slip} (h : a.Before b) : a.due ≤ b.due := by
  unfold Before at h
  omega

end Slip

/-! ## The docket -/

/-- An account of everything that was posted. -/
structure Docket where
  now : Nat := 0
  /-- In the order of posting. -/
  posted : List Slip := []
  cancelled : List Slip := []
  /-- In the order of delivery. -/
  delivered : List Slip := []

namespace Docket

/-- The slips that were posted and neither cancelled nor delivered since, in the order of
posting. -/
def waiting (docket : Docket) : List Slip :=
  docket.posted.filter fun slip => slip ∉ docket.cancelled ∧ slip ∉ docket.delivered

/-- The waiting slips by due time, those of one due time in the order of posting. -/
def order (docket : Docket) : List Slip :=
  docket.waiting.mergeSort fun slip other => ¬other.Before slip

def due (docket : Docket) : List Slip :=
  docket.order.filter (·.due ≤ docket.now)

def later (docket : Docket) : List Slip :=
  docket.order.filter (docket.now < ·.due)

def post (docket : Docket) (task : Task) (delay : Nat) : Docket :=
  let slip : Slip := ⟨docket.posted.length, docket.now + delay, task⟩
  { docket with posted := docket.posted ++ [slip] }

def cancel (docket : Docket) (task : Task) : Docket :=
  { docket with cancelled := docket.cancelled ++ docket.waiting.filter (·.task = task) }

def deliver (docket : Docket) : Docket :=
  { docket with delivered := docket.delivered ++ docket.due.head?.toList }

/-- Every slip has its own number, and only posted slips are cancelled or delivered. -/
structure Numbered (docket : Docket) : Prop where
  ascending : docket.posted.Pairwise (·.number < ·.number)
  below : ∀ slip ∈ docket.posted, slip.number < docket.posted.length
  cancelled : ∀ slip ∈ docket.cancelled, slip ∈ docket.posted
  delivered : ∀ slip ∈ docket.delivered, slip ∈ docket.posted

variable {docket : Docket}

theorem mem_waiting {slip : Slip} : slip ∈ docket.waiting ↔
    slip ∈ docket.posted ∧ slip ∉ docket.cancelled ∧ slip ∉ docket.delivered := by
  simp [waiting]

theorem order_perm (docket : Docket) : docket.order.Perm docket.waiting :=
  List.mergeSort_perm _ _

namespace Numbered

theorem waiting_ascending (h : docket.Numbered) :
    docket.waiting.Pairwise (·.number < ·.number) :=
  h.ascending.filter _

theorem order_sorted (h : docket.Numbered) : docket.order.Pairwise Slip.Before := by
  have hTrans (a b c : Slip) (hab : decide (¬b.Before a) = true)
      (hbc : decide (¬c.Before b) = true) : decide (¬c.Before a) = true := by
    rw [decide_eq_true_eq] at hab hbc ⊢
    exact Slip.not_before_trans hab hbc
  have hTotal (a b : Slip) : (decide (¬b.Before a) || decide (¬a.Before b)) = true := by
    by_cases hBefore : a.Before b
    · simp [Slip.before_asymm hBefore]
    · simp [hBefore]
  have hSorted := List.pairwise_mergeSort hTrans hTotal docket.waiting
  have hNumbers : docket.order.Pairwise (·.number ≠ ·.number) := by
    refine (docket.order_perm.pairwise_iff fun h => Ne.symm h).mpr ?_
    exact h.waiting_ascending.imp Nat.ne_of_lt
  refine (hSorted.and hNumbers).imp ?_
  rintro a b ⟨hBefore, hNumber⟩
  exact Slip.before_of_not_before (of_decide_eq_true hBefore) hNumber

theorem order_eq (h : docket.Numbered) {slips : List Slip} (hPerm : slips.Perm docket.waiting)
    (hSorted : slips.Pairwise Slip.Before) : docket.order = slips := by
  refine List.Perm.eq_of_pairwise ?_ h.order_sorted hSorted (docket.order_perm.trans hPerm.symm)
  intro a b _ _ hab hba
  exact absurd hba (Slip.before_asymm hab)

/-- In order, what is due comes before what is not. -/
theorem order_eq_append (h : docket.Numbered) : docket.order = docket.due ++ docket.later := by
  have hSorted := h.order_sorted
  unfold due later
  generalize docket.order = slips at hSorted ⊢
  induction slips with
  | nil => rfl
  | cons head rest ih =>
      obtain ⟨hHead, hRest⟩ := List.pairwise_cons.mp hSorted
      by_cases hDue : head.due ≤ docket.now
      · have hNotLater : ¬docket.now < head.due := Nat.not_lt_of_le hDue
        simp only [List.filter_cons, hDue, hNotLater, decide_true, decide_false, if_true,
          Bool.false_eq_true, if_false, List.cons_append]
        rw [← ih hRest]
      · have hNone : rest.filter (·.due ≤ docket.now) = [] := by
          rw [List.filter_eq_nil_iff]
          intro slip hMem
          have hBehind := Slip.due_le_of_before (hHead slip hMem)
          simp only [decide_eq_true_eq]
          omega
        have hLater := ih hRest
        rw [hNone, List.nil_append] at hLater
        have hLate : docket.now < head.due := Nat.lt_of_not_le hDue
        simp only [List.filter_cons, hDue, hLate, decide_true, decide_false, if_true,
          Bool.false_eq_true, if_false]
        rw [hNone, List.nil_append, ← hLater]

/-! ### Posting -/

theorem post (h : docket.Numbered) (task : Task) (delay : Nat) :
    (docket.post task delay).Numbered where
  ascending := by
    refine List.pairwise_append.mpr ⟨h.ascending, List.pairwise_singleton _ _, ?_⟩
    intro slip hSlip new hNew
    obtain rfl := List.mem_singleton.mp hNew
    exact h.below slip hSlip
  below := by
    intro slip hSlip
    have hLength : (docket.post task delay).posted.length = docket.posted.length + 1 := by
      simp [Docket.post]
    rw [hLength]
    rcases List.mem_append.mp hSlip with hOld | hNew
    · exact Nat.lt_succ_of_lt (h.below slip hOld)
    · obtain rfl := List.mem_singleton.mp hNew
      exact Nat.lt_succ_self _
  cancelled slip hSlip := List.mem_append_left _ (h.cancelled slip hSlip)
  delivered slip hSlip := List.mem_append_left _ (h.delivered slip hSlip)

theorem waiting_post (h : docket.Numbered) (task : Task) (delay : Nat) :
    (docket.post task delay).waiting =
      docket.waiting ++ [⟨docket.posted.length, docket.now + delay, task⟩] := by
  have hNew : (⟨docket.posted.length, docket.now + delay, task⟩ : Slip) ∉ docket.posted := by
    intro hOld
    exact Nat.lt_irrefl _ (h.below _ hOld)
  unfold waiting
  rw [Docket.post, List.filter_append, List.filter_cons_of_pos, List.filter_nil]
  exact decide_eq_true ⟨mt (h.cancelled _) hNew, mt (h.delivered _) hNew⟩

/-! ### Cancelling -/

theorem cancel (h : docket.Numbered) (task : Task) : (docket.cancel task).Numbered where
  ascending := h.ascending
  below := h.below
  cancelled slip hSlip := by
    rcases List.mem_append.mp hSlip with hOld | hNew
    · exact h.cancelled slip hOld
    · exact (mem_waiting.mp (List.mem_of_mem_filter hNew)).1
  delivered := h.delivered

end Numbered

/-- No slip for a cancelled task waits any longer, and every other one does. -/
theorem waiting_cancel (docket : Docket) (task : Task) :
    (docket.cancel task).waiting = docket.waiting.filter (·.task ≠ task) := by
  conv_rhs => unfold waiting
  rw [List.filter_filter]
  refine List.filter_congr fun slip hSlip => ?_
  have hPosted : slip ∈ docket.posted := hSlip
  have hWaiting : slip ∈ docket.waiting ↔ slip ∉ docket.cancelled ∧ slip ∉ docket.delivered := by
    rw [mem_waiting, and_iff_right hPosted]
  rw [Bool.eq_iff_iff]
  simp only [cancel, List.mem_append, List.mem_filter, hWaiting, decide_eq_true_eq,
    Bool.and_eq_true]
  tauto

namespace Numbered

theorem order_cancel (h : docket.Numbered) (task : Task) :
    (docket.cancel task).order = docket.order.filter (·.task ≠ task) := by
  refine (h.cancel task).order_eq ?_ (h.order_sorted.filter _)
  rw [waiting_cancel]
  exact docket.order_perm.filter _

/-! ### Delivering -/

theorem deliver (h : docket.Numbered) : docket.deliver.Numbered where
  ascending := h.ascending
  below := h.below
  cancelled := h.cancelled
  delivered slip hSlip := by
    rcases List.mem_append.mp hSlip with hOld | hNew
    · exact h.delivered slip hOld
    · have hDue := List.mem_of_mem_head? (Option.mem_toList.mp hNew)
      have hWaiting := docket.order_perm.mem_iff.mp (List.mem_of_mem_filter hDue)
      exact (mem_waiting.mp hWaiting).1

/-- The first slip that is due waits no longer, and every other one does. -/
theorem waiting_deliver {first : Slip} {more : List Slip} (hDue : docket.due = first :: more) :
    docket.deliver.waiting = docket.waiting.filter (· ≠ first) := by
  conv_rhs => unfold waiting
  rw [List.filter_filter]
  refine List.filter_congr fun slip hSlip => ?_
  rw [Bool.eq_iff_iff]
  simp only [Docket.deliver, hDue, List.head?_cons, Option.toList_some, List.mem_append,
    List.mem_singleton, decide_eq_true_eq, Bool.and_eq_true]
  tauto

/-- The slips that are still due keep their order. -/
theorem due_deliver (h : docket.Numbered) {first : Slip} {more : List Slip}
    (hDue : docket.due = first :: more) : docket.deliver.due = more := by
  have hSorted := h.order_sorted
  have hOrder : docket.deliver.order = docket.order.filter (· ≠ first) := by
    refine h.deliver.order_eq ?_ (hSorted.filter _)
    rw [waiting_deliver hDue]
    exact docket.order_perm.filter _
  have hFirst := hSorted.filter (·.due ≤ docket.now)
  change docket.due.Pairwise Slip.Before at hFirst
  rw [hDue] at hFirst
  change docket.deliver.order.filter (·.due ≤ docket.now) = more
  rw [hOrder, List.filter_comm]
  change docket.due.filter _ = more
  rw [hDue, List.filter_cons_of_neg (by simp), List.filter_eq_self]
  intro slip hSlip
  have hBefore := List.rel_of_pairwise_cons hFirst hSlip
  rw [decide_eq_true_eq]
  rintro rfl
  exact Slip.before_asymm hBefore hBefore

end Numbered

end Docket

/-! ## The queue and the docket -/

namespace Scheduler

inductive Request where
  | post (task : Task)
  | postDelayed (task : Task) (delay : Nat)
  | cancel (task : Task)
  | advanceTo (time : Nat)
  | popDue

def Request.run (request : Request) (scheduler : Scheduler) : Scheduler × Option Task :=
  match request with
  | .post task => (scheduler.post task, none)
  | .postDelayed task delay => (scheduler.postDelayed task delay, none)
  | .cancel task => (scheduler.cancel task, none)
  | .advanceTo time => (scheduler.advanceTo time, none)
  | .popDue =>
    match scheduler.popDue with
    | none => (scheduler, none)
    | some (task, rest) => (rest, some task)

def Request.enter (request : Request) (docket : Docket) : Docket :=
  match request with
  | .post task => docket.post task 0
  | .postDelayed task delay => docket.post task delay
  | .cancel task => docket.cancel task
  | .advanceTo time => { docket with now := max docket.now time }
  | .popDue => docket.deliver

/-- A scheduler with the tasks taken from it so far, and the docket kept beside it. -/
structure History where
  scheduler : Scheduler := {}
  taken : List Task := []
  docket : Docket := {}

def History.ask (history : History) (request : Request) : History :=
  let (scheduler, task) := request.run history.scheduler
  { scheduler
    taken := history.taken ++ task.toList
    docket := request.enter history.docket }

def history (requests : List Request) : History :=
  requests.foldl History.ask {}

theorem history_snoc (requests : List Request) (request : Request) :
    history (requests ++ [request]) = (history requests).ask request := by
  unfold history
  rw [List.foldl_append]
  rfl

/-- The queue is the slips that wait. -/
structure Agrees (scheduler : Scheduler) (docket : Docket) : Prop where
  numbered : docket.Numbered
  clock : scheduler.now = docket.now
  sequence : scheduler.sequence = docket.posted.length
  queue : scheduler.queue = docket.waiting.map Slip.posted

namespace Agrees

variable {scheduler : Scheduler} {docket : Docket}

theorem filed (h : scheduler.Agrees docket) : scheduler.Filed where
  ascending := by
    rw [h.queue, List.pairwise_map]
    exact h.numbered.waiting_ascending.imp Nat.succ_lt_succ
  below := by
    rw [h.queue, h.sequence, List.forall_mem_map]
    intro slip hSlip
    exact h.numbered.below slip (Docket.mem_waiting.mp hSlip).1

/-- What is queued, in order, is the docket's order of some of the slips. -/
theorem sorted_eq (h : scheduler.Agrees docket) :
    scheduler.sorted = docket.order.map Slip.posted := by
  refine h.filed.sorted_eq ?_ ?_
  · rw [h.queue]
    exact docket.order_perm.map _
  · rw [List.pairwise_map]
    exact h.numbered.order_sorted.imp Slip.precedes_posted_iff.mpr

theorem mem_due_iff (h : scheduler.Agrees docket) {slip : Slip} :
    slip ∈ docket.due ↔ slip ∈ docket.waiting ∧ slip.due ≤ scheduler.now := by
  rw [Docket.due, List.mem_filter, docket.order_perm.mem_iff, h.clock, decide_eq_true_eq]

theorem post (h : scheduler.Agrees docket) (task : Task) (delay : Nat) :
    (scheduler.postDelayed task delay).Agrees (docket.post task delay) where
  numbered := h.numbered.post task delay
  clock := h.clock
  sequence := by
    simp [postDelayed, Docket.post, h.sequence]
  queue := by
    rw [h.numbered.waiting_post, List.map_append, ← h.queue, ← h.clock, ← h.sequence]
    rfl

theorem cancel (h : scheduler.Agrees docket) (task : Task) :
    (scheduler.cancel task).Agrees (docket.cancel task) where
  numbered := h.numbered.cancel task
  clock := h.clock
  sequence := h.sequence
  queue := by
    rw [Docket.waiting_cancel, Scheduler.cancel, h.queue, List.filter_map]
    rfl

theorem popDue_of_nil (h : scheduler.Agrees docket) (hDue : docket.due = []) :
    scheduler.popDue = none := by
  rw [popDue_eq_none_iff, h.queue, List.forall_mem_map]
  intro slip hSlip
  by_contra hTime
  have hMem := h.mem_due_iff.mpr ⟨hSlip, Nat.le_of_not_lt hTime⟩
  rw [hDue] at hMem
  exact absurd hMem List.not_mem_nil

/-- The search finds the first slip that is due, and takes it out of the queue. -/
theorem popDue_of_cons (h : scheduler.Agrees docket) {first : Slip} {more : List Slip}
    (hDue : docket.due = first :: more) : scheduler.popDue =
      some (first.task, { scheduler with queue := docket.deliver.waiting.map Slip.posted }) := by
  have hFirst : first ∈ docket.waiting ∧ first.due ≤ scheduler.now :=
    h.mem_due_iff.mp (by simp [hDue])
  cases hPop : scheduler.popDue with
  | none =>
      rw [popDue_eq_none_iff, h.queue, List.forall_mem_map] at hPop
      exact absurd hFirst.2 (Nat.not_le_of_lt (hPop first hFirst.1))
  | some taken =>
      obtain ⟨task, rest⟩ := taken
      obtain ⟨before, posted, after, hQueue, hRest, rfl, hPosted, hNext⟩ := popDue_eq_some hPop
      obtain ⟨earlier, others, hWaiting, rfl, hOthers⟩ :=
        List.map_eq_append_iff.mp (h.queue.symm.trans hQueue)
      obtain ⟨slip, later, rfl, rfl, rfl⟩ := List.map_eq_cons_iff.mp hOthers
      -- nothing that is due comes before the slip that was found
      obtain rfl : slip = first := by
        have hSlip : slip ∈ docket.due := h.mem_due_iff.mpr ⟨by simp [hWaiting], hPosted⟩
        have hSorted : docket.due.Pairwise Slip.Before := h.numbered.order_sorted.filter _
        rw [hDue] at hSlip hSorted
        rcases List.mem_cons.mp hSlip with rfl | hMore
        · rfl
        · have hBefore := Slip.precedes_posted_iff.mpr (List.rel_of_pairwise_cons hSorted hMore)
          have hNot := hNext first.posted (by
            rw [h.queue]
            exact List.mem_map_of_mem hFirst.1)
          rw [hNot] at hBefore
          cases hBefore
      have hOnce : (earlier ++ slip :: later).Pairwise (· ≠ ·) := by
        rw [← hWaiting]
        exact h.numbered.waiting_ascending.imp fun hNumber =>
          ne_of_apply_ne Slip.number (Nat.ne_of_lt hNumber)
      have hLeft : docket.deliver.waiting = earlier ++ later := by
        rw [Docket.Numbered.waiting_deliver hDue, hWaiting]
        obtain ⟨-, hLater, hEarlier⟩ := List.pairwise_append.mp hOnce
        rw [List.filter_append, List.filter_cons_of_neg (by simp), List.filter_eq_self.mpr,
          List.filter_eq_self.mpr]
        · intro other hOther
          exact decide_eq_true (List.rel_of_pairwise_cons hLater hOther).symm
        · intro other hOther
          exact decide_eq_true (hEarlier other hOther slip List.mem_cons_self)
      rw [hLeft, List.map_append, ← hRest]
      rfl

/-- The first slip that is due is that of the task that is taken. -/
theorem popDue (h : scheduler.Agrees docket) :
    (Request.popDue.run scheduler).1.Agrees docket.deliver ∧
      (Request.popDue.run scheduler).2 = docket.due.head?.map (·.task) := by
  cases hDue : docket.due with
  | nil =>
      have hSame : docket.deliver = docket := by
        unfold Docket.deliver
        simp [hDue]
      simp only [Request.run, h.popDue_of_nil hDue, hSame]
      exact ⟨h, rfl⟩
  | cons first more =>
      simp only [Request.run, h.popDue_of_cons hDue]
      exact ⟨⟨h.numbered.deliver, h.clock, h.sequence, rfl⟩, rfl⟩

end Agrees

theorem agrees_history (requests : List Request) :
    (history requests).scheduler.Agrees (history requests).docket ∧
      (history requests).taken = (history requests).docket.delivered.map (·.task) := by
  induction requests using List.reverseRecOn with
  | nil =>
      have hEmpty : Docket.Numbered {} := ⟨.nil, by simp, by simp, by simp⟩
      exact ⟨⟨hEmpty, rfl, rfl, rfl⟩, rfl⟩
  | append_singleton requests request ih =>
      rw [history_snoc]
      generalize history requests = earlier at ih ⊢
      obtain ⟨hAgrees, hTaken⟩ := ih
      have hUntaken : earlier.taken ++ [] = earlier.docket.delivered.map (·.task) := by
        rw [List.append_nil, hTaken]
      cases request with
      | post task => exact ⟨hAgrees.post task 0, hUntaken⟩
      | postDelayed task delay => exact ⟨hAgrees.post task delay, hUntaken⟩
      | cancel task => exact ⟨hAgrees.cancel task, hUntaken⟩
      | advanceTo time =>
          obtain ⟨hNumbered, hClock, hSequence, hQueue⟩ := hAgrees
          refine ⟨⟨⟨hNumbered.ascending, hNumbered.below, hNumbered.cancelled,
            hNumbered.delivered⟩, ?_, hSequence, hQueue⟩, hUntaken⟩
          exact congrArg (max · time) hClock
      | popDue =>
          obtain ⟨hNext, hTask⟩ := hAgrees.popDue
          refine ⟨hNext, ?_⟩
          simp only [History.ask, Request.enter, Docket.deliver, hTask, hTaken, List.map_append]
          cases earlier.docket.due.head? with
          | none => rfl
          | some first => rfl

/-! ## What is delivered -/

/-- No request turns the clock back. -/
theorem now_le_run (request : Request) (scheduler : Scheduler) :
    scheduler.now ≤ (request.run scheduler).1.now := by
  cases request with
  | post task => exact Nat.le_refl _
  | postDelayed task delay => exact Nat.le_refl _
  | cancel task => exact Nat.le_refl _
  | advanceTo time => exact Nat.le_max_left _ _
  | popDue =>
      unfold Request.run
      cases hPop : scheduler.popDue with
      | none => exact Nat.le_refl _
      | some taken =>
          obtain ⟨before, posted, after, -, hRest, -⟩ := popDue_eq_some hPop
          exact Nat.le_of_eq (congrArg Scheduler.now hRest).symm

theorem nextDue_eq_some_iff {scheduler : Scheduler} {time : Nat} :
    scheduler.nextDue = some time ↔
      (∃ posted ∈ scheduler.queue, posted.due = time) ∧
        ∀ posted ∈ scheduler.queue, time ≤ posted.due := by
  rw [nextDue, List.min?_eq_some_iff, List.mem_map, List.forall_mem_map]

namespace Agrees

variable {scheduler : Scheduler} {docket : Docket}

/-- The slips whose time is yet to come are left as they wait. -/
theorem drain_eq (h : scheduler.Agrees docket) : scheduler.drain =
    (docket.due.map (·.task), { scheduler with
      queue := (docket.waiting.filter (scheduler.now < ·.due)).map Slip.posted }) := by
  induction hDue : docket.due generalizing scheduler docket with
  | nil =>
      have hLater : docket.waiting.filter (scheduler.now < ·.due) = docket.waiting := by
        rw [List.filter_eq_self]
        intro slip hSlip
        have hNotDue := mt (fun hTime => h.mem_due_iff.mpr ⟨hSlip, hTime⟩) (by simp [hDue])
        exact decide_eq_true (Nat.lt_of_not_le hNotDue)
      rw [drain_of_none (h.popDue_of_nil hDue), hLater, ← h.queue]
      rfl
  | cons first more ih =>
      have hNext : ({ scheduler with
          queue := docket.deliver.waiting.map Slip.posted }).Agrees docket.deliver :=
        ⟨h.numbered.deliver, h.clock, h.sequence, rfl⟩
      rw [drain_of_some (h.popDue_of_cons hDue), ih hNext (h.numbered.due_deliver hDue),
        Docket.Numbered.waiting_deliver hDue, List.filter_filter]
      have hFirst : first.due ≤ scheduler.now := (h.mem_due_iff.mp (by simp [hDue])).2
      have hSame : (docket.waiting.filter fun slip =>
          decide (scheduler.now < slip.due) && decide (slip ≠ first)) =
          docket.waiting.filter (scheduler.now < ·.due) := by
        refine List.filter_congr fun slip _ => ?_
        rw [Bool.and_eq_left_iff_imp, decide_eq_true_eq, decide_eq_true_eq]
        rintro hLater rfl
        omega
      rw [hSame]
      rfl

theorem popDue_drain (h : scheduler.Agrees docket) : scheduler.drain.2.popDue = none := by
  rw [h.drain_eq, popDue_eq_none_iff, List.forall_mem_map]
  intro slip hSlip
  exact of_decide_eq_true (List.mem_filter.mp hSlip).2

theorem sorted_drain (h : scheduler.Agrees docket) :
    scheduler.drain.2.sorted = docket.later.map Slip.posted := by
  have hLeft : scheduler.drain.2.queue.Sublist scheduler.queue := by
    rw [h.drain_eq, h.queue]
    exact List.filter_sublist.map _
  have hFiled : scheduler.drain.2.Filed := by
    refine ⟨h.filed.ascending.sublist hLeft, fun posted hMem => ?_⟩
    rw [h.drain_eq]
    exact h.filed.below posted (hLeft.mem hMem)
  refine hFiled.sorted_eq ?_ ?_
  · rw [h.drain_eq, h.clock]
    exact (docket.order_perm.filter _).map _
  · rw [List.pairwise_map]
    exact (h.numbered.order_sorted.filter _).imp Slip.precedes_posted_iff.mpr

theorem mem_queue (h : scheduler.Agrees docket) {entry : Posted} :
    entry ∈ scheduler.queue ↔ ∃ slip ∈ docket.waiting, slip.posted = entry := by
  rw [h.queue, List.mem_map]

theorem nextDue_eq_none_iff (h : scheduler.Agrees docket) :
    scheduler.nextDue = none ↔ docket.waiting = [] := by
  rw [nextDue, List.min?_eq_none_iff, List.map_eq_nil_iff, h.queue, List.map_eq_nil_iff]

end Agrees

/-- What taking tasks until none is due gives out, and what else a docket tells of the
scheduler. -/
structure History.Delivers (history : History) : Prop where
  /-- Every task was posted under a number of its own. -/
  numbered : history.docket.posted.Pairwise (·.number < ·.number)
  taken : history.taken = history.docket.delivered.map (·.task)
  due : history.docket.due.Perm
    (history.docket.waiting.filter (·.due ≤ history.scheduler.now))
  later : history.docket.later.Perm
    (history.docket.waiting.filter (history.scheduler.now < ·.due))
  sorted : (history.docket.due ++ history.docket.later).Pairwise Slip.Before
  queue : history.scheduler.queue = history.docket.waiting.map Slip.posted
  order : history.scheduler.sorted =
    (history.docket.due ++ history.docket.later).map Slip.posted
  drained : history.scheduler.drain.1 = history.docket.due.map (·.task)
  pending : history.scheduler.pendingTasks =
    history.scheduler.drain.1 ++ history.docket.later.map (·.task)
  /-- What is not due stays queued as it was. -/
  left : history.scheduler.drain.2 = { history.scheduler with
    queue := (history.docket.waiting.filter (history.scheduler.now < ·.due)).map Slip.posted }
  leftOrder : history.scheduler.drain.2.sorted = history.docket.later.map Slip.posted
  exhausted : history.scheduler.drain.2.popDue = none
  cancel : ∀ task, history.scheduler.cancel task = { history.scheduler with
    queue := (history.docket.waiting.filter (·.task ≠ task)).map Slip.posted }
  cancelOrder : ∀ task, (history.scheduler.cancel task).sorted =
    ((history.docket.due ++ history.docket.later).filter (·.task ≠ task)).map Slip.posted
  clock : ∀ request : Request, history.scheduler.now ≤ (request.run history.scheduler).1.now
  nextDue_none : history.scheduler.nextDue = none ↔ history.docket.waiting = []
  nextDue_some : ∀ time, history.scheduler.nextDue = some time →
    (∀ slip ∈ history.docket.waiting, time ≤ slip.due) ∧
      ∃ slip ∈ history.docket.waiting, slip.due = time

/-- Whatever was asked of a scheduler before, taking tasks until none is due gives out the tasks
that were posted, not cancelled since and not taken before, whose time has come: each once, by due
time, and those of one due time in the order of posting. The others stay queued in their order. -/
theorem delivers (requests : List Request) : (history requests).Delivers := by
  obtain ⟨hAgrees, hTaken⟩ := agrees_history requests
  generalize history requests = history at hAgrees hTaken ⊢
  have hPerm := history.docket.order_perm
  have hOrder := hAgrees.numbered.order_eq_append
  have hSorted := hAgrees.sorted_eq
  rw [hOrder] at hSorted
  refine
    { numbered := hAgrees.numbered.ascending
      taken := hTaken
      due := ?_
      later := ?_
      sorted := ?_
      queue := hAgrees.queue
      order := hSorted
      drained := congrArg Prod.fst hAgrees.drain_eq
      pending := ?_
      left := congrArg Prod.snd hAgrees.drain_eq
      leftOrder := hAgrees.sorted_drain
      exhausted := hAgrees.popDue_drain
      cancel := ?_
      cancelOrder := ?_
      clock := fun request => now_le_run request _
      nextDue_none := hAgrees.nextDue_eq_none_iff
      nextDue_some := ?_ }
  · rw [hAgrees.clock]
    exact hPerm.filter _
  · rw [hAgrees.clock]
    exact hPerm.filter _
  · rw [← hOrder]
    exact hAgrees.numbered.order_sorted
  · rw [hAgrees.drain_eq, pendingTasks, hSorted, List.map_map, List.map_append]
    rfl
  · intro task
    rw [Scheduler.cancel, hAgrees.queue, List.filter_map]
    rfl
  · intro task
    rw [(hAgrees.cancel task).sorted_eq, hAgrees.numbered.order_cancel, hOrder]
  · intro time hNext
    obtain ⟨⟨posted, hMem, rfl⟩, hBound⟩ := nextDue_eq_some_iff.mp hNext
    obtain ⟨slip, hSlip, rfl⟩ := hAgrees.mem_queue.mp hMem
    refine ⟨fun other hOther => ?_, slip, hSlip, rfl⟩
    exact hBound _ (hAgrees.mem_queue.mpr ⟨other, hOther, rfl⟩)

end Scheduler

end Scrim
