import Scrim.Time

/-!
# The scheduler

A clock with a queue of delayed tasks. The queue is kept in the order of posting, and every
task in it has a number. The next task is the one that is due first, and of those due at one
instant the one with the least number; it is looked for among all that are due and taken out
of the middle of the queue. The main statements are `popDue_eq_some`, which says what is taken
and what is left, and `popDue_eq_none_iff`.
-/

namespace Scrim

inductive Task where
  /-- The blank frame has reached the display. -/
  | pendingFrame
  /-- The display had time to change its power mode; the real targets may show. -/
  | blankingTransition
  /-- Arm the alarm that fades the wallpaper away. -/
  | scheduleWallpaperTimeout
  /-- Disarm that alarm. -/
  | cancelWallpaperTimeout
deriving DecidableEq, Repr, Inhabited

namespace Task

def all : List Task :=
  [.pendingFrame, .blankingTransition, .scheduleWallpaperTimeout, .cancelWallpaperTimeout]

def key : Task → String
  | .pendingFrame => "pending_frame"
  | .blankingTransition => "blanking_transition"
  | .scheduleWallpaperTimeout => "schedule_wallpaper_timeout"
  | .cancelWallpaperTimeout => "cancel_wallpaper_timeout"

def ofKey? (word : String) : Option Task :=
  all.find? fun task => task.key = word

end Task

structure Posted where
  due : Nat
  /-- Its number in the order of posting. -/
  sequence : Nat
  task : Task
deriving DecidableEq, Repr

namespace Posted

/-- Due earlier, or due at the same instant and posted earlier. -/
def precedes (posted other : Posted) : Bool :=
  posted.due < other.due || posted.due = other.due && posted.sequence < other.sequence

/-- What is to be done and when, whatever its number. -/
def entry (posted : Posted) : Nat × Task := (posted.due, posted.task)

theorem precedes_iff {posted other : Posted} : posted.precedes other = true ↔
    posted.due < other.due ∨ posted.due = other.due ∧ posted.sequence < other.sequence := by
  simp [precedes]

theorem precedes_irrefl (posted : Posted) : posted.precedes posted = false := by
  simp [precedes]

theorem precedes_trans {a b c : Posted} (h : a.precedes b = false) (h' : b.precedes c = false) :
    a.precedes c = false := by
  rw [← Bool.not_eq_true, precedes_iff] at *
  omega

theorem precedes_asymm {a b : Posted} (h : a.precedes b = true) : b.precedes a = false := by
  rw [← Bool.not_eq_true]
  rw [precedes_iff] at *
  omega

/-- There is only one way to put tasks in order. -/
theorem eq_of_perm {tasks others : List Posted} (hPerm : tasks.Perm others)
    (hTasks : tasks.Pairwise (·.precedes ·)) (hOthers : others.Pairwise (·.precedes ·)) :
    tasks = others := by
  refine List.Perm.eq_of_pairwise ?_ hTasks hOthers hPerm
  intro a b _ _ hab hba
  exact absurd hba (Bool.not_eq_true _ ▸ precedes_asymm hab)

end Posted

/-- A clock, its queue, and whether an animation frame has been asked for. -/
structure Scheduler where
  now : Nat := 0
  /-- The number of the task that was posted last. -/
  sequence : Nat := 0
  /-- In the order of posting. -/
  queue : List Posted := []
  frameRequested : Bool := false
deriving Repr

namespace Scheduler

def postDelayed (scheduler : Scheduler) (task : Task) (delay : Nat) : Scheduler :=
  let sequence := scheduler.sequence + 1
  { scheduler with
    sequence
    queue := scheduler.queue ++ [⟨scheduler.now + delay, sequence, task⟩] }

def post (scheduler : Scheduler) (task : Task) : Scheduler :=
  scheduler.postDelayed task 0

def cancel (scheduler : Scheduler) (task : Task) : Scheduler :=
  { scheduler with queue := scheduler.queue.filter (·.task ≠ task) }

def hasPending (scheduler : Scheduler) (task : Task) : Bool :=
  scheduler.queue.any (·.task = task)

def sorted (scheduler : Scheduler) : List Posted :=
  scheduler.queue.mergeSort fun posted other => !other.precedes posted

def pendingTasks (scheduler : Scheduler) : List Task :=
  scheduler.sorted.map (·.task)

def nextDue (scheduler : Scheduler) : Option Nat :=
  (scheduler.queue.map (·.due)).min?

/-- The first of the tasks that none precedes, with its place in the queue. -/
def earliest? : List (Posted × Nat) → Option (Posted × Nat)
  | [] => none
  | candidate :: rest =>
    match earliest? rest with
    | none => some candidate
    | some other => if other.1.precedes candidate.1 then some other else some candidate

def popDue (scheduler : Scheduler) : Option (Task × Scheduler) :=
  let due := scheduler.queue.zipIdx.filter fun (posted, _) => posted.due ≤ scheduler.now
  (earliest? due).map fun (posted, index) =>
    (posted.task, { scheduler with queue := scheduler.queue.eraseIdx index })

/-- Moves the clock forward; it never goes back. -/
def advanceTo (scheduler : Scheduler) (time : Nat) : Scheduler :=
  { scheduler with now := max scheduler.now time }

def requestFrame (scheduler : Scheduler) : Scheduler :=
  { scheduler with frameRequested := true }

/-- Answers the request for a frame. The flag says whether there was one. -/
def takeFrameRequest (scheduler : Scheduler) : Bool × Scheduler :=
  (scheduler.frameRequested, { scheduler with frameRequested := false })

/-! ## The next task -/

theorem earliest?_eq_none_iff {candidates : List (Posted × Nat)} :
    earliest? candidates = none ↔ candidates = [] := by
  cases candidates with
  | nil => simp [earliest?]
  | cons candidate rest =>
    simp only [earliest?, reduceCtorEq, iff_false]
    split
    · simp
    · split
      · simp
      · simp

theorem earliest?_eq_some {candidates : List (Posted × Nat)} {first : Posted × Nat}
    (h : earliest? candidates = some first) :
    first ∈ candidates ∧ ∀ other ∈ candidates, other.1.precedes first.1 = false := by
  induction candidates generalizing first with
  | nil => simp [earliest?] at h
  | cons candidate rest ih =>
    rw [earliest?] at h
    split at h
    · next hNone =>
      obtain rfl := Option.some.inj h
      simp [earliest?_eq_none_iff.mp hNone, Posted.precedes_irrefl]
    · next other hOther =>
      obtain ⟨hMem, hFirst⟩ := ih hOther
      split at h
      · next hPrecedes =>
        obtain rfl := Option.some.inj h
        exact ⟨List.mem_cons_of_mem _ hMem,
          List.forall_mem_cons.mpr ⟨Posted.precedes_asymm hPrecedes, hFirst⟩⟩
      · next hNot =>
        obtain rfl := Option.some.inj h
        refine ⟨List.mem_cons_self,
          List.forall_mem_cons.mpr ⟨Posted.precedes_irrefl _, fun another hAnother => ?_⟩⟩
        exact Posted.precedes_trans (hFirst another hAnother) (Bool.of_not_eq_true hNot)

/-- The task that is taken is due, none in the queue precedes it, and it alone is removed. -/
theorem popDue_eq_some {scheduler rest : Scheduler} {task : Task}
    (h : scheduler.popDue = some (task, rest)) :
    ∃ before posted after, scheduler.queue = before ++ posted :: after ∧
      rest = { scheduler with queue := before ++ after } ∧ posted.task = task ∧
      posted.due ≤ scheduler.now ∧ ∀ other ∈ scheduler.queue, other.precedes posted = false := by
  obtain ⟨⟨posted, index⟩, hFirst, hTaken⟩ := Option.map_eq_some_iff.mp h
  obtain ⟨rfl, rfl⟩ := Prod.mk.inj hTaken
  obtain ⟨hMem, hLeast⟩ := earliest?_eq_some hFirst
  obtain ⟨hQueued, hDue⟩ := List.mem_filter.mp hMem
  have hPlace := List.mk_mem_zipIdx_iff_getElem?.mp hQueued
  obtain ⟨hIndex, hPosted⟩ := List.getElem?_eq_some_iff.mp hPlace
  refine ⟨scheduler.queue.take index, posted, scheduler.queue.drop (index + 1), ?_, ?_, rfl,
    of_decide_eq_true hDue, fun other hOther => ?_⟩
  · rw [← hPosted, ← List.drop_eq_getElem_cons hIndex, List.take_append_drop]
  · rw [List.eraseIdx_eq_take_drop_succ]
  · by_cases hTime : other.due ≤ scheduler.now
    · obtain ⟨place, hPlace⟩ := List.getElem?_of_mem hOther
      exact hLeast (other, place)
        (List.mem_filter.mpr ⟨List.mk_mem_zipIdx_iff_getElem?.mpr hPlace, decide_eq_true hTime⟩)
    · -- what is not due comes later than what is
      have hPostedDue := of_decide_eq_true hDue
      rw [← Bool.not_eq_true, Posted.precedes_iff]
      omega

theorem popDue_eq_none_iff {scheduler : Scheduler} :
    scheduler.popDue = none ↔ ∀ posted ∈ scheduler.queue, scheduler.now < posted.due := by
  unfold popDue
  rw [Option.map_eq_none_iff, earliest?_eq_none_iff, List.filter_eq_nil_iff]
  constructor
  · intro hNone posted hMem
    obtain ⟨place, hPlace⟩ := List.getElem?_of_mem hMem
    simpa using hNone (posted, place) (List.mk_mem_zipIdx_iff_getElem?.mpr hPlace)
  · rintro hLater ⟨posted, place⟩ hMem
    simpa using hLater posted (List.mem_of_getElem? (List.mk_mem_zipIdx_iff_getElem?.mp hMem))

/-! ## The order of delivery -/

/-- The tasks in the queue have ascending numbers, and the next number is still free. -/
structure Filed (scheduler : Scheduler) : Prop where
  ascending : scheduler.queue.Pairwise (·.sequence < ·.sequence)
  below : ∀ posted ∈ scheduler.queue, posted.sequence ≤ scheduler.sequence

theorem sorted_perm (scheduler : Scheduler) : scheduler.sorted.Perm scheduler.queue :=
  List.mergeSort_perm _ _

theorem Filed.pairwise_sorted {scheduler : Scheduler} (h : scheduler.Filed) :
    scheduler.sorted.Pairwise (·.precedes ·) := by
  have hTrans (a b c : Posted) (hab : !b.precedes a) (hbc : !c.precedes b) : !c.precedes a := by
    rw [Bool.not_eq_true'] at hab hbc ⊢
    exact Posted.precedes_trans hbc hab
  have hTotal (a b : Posted) : !b.precedes a || !a.precedes b := by
    cases hBefore : a.precedes b
    · simp
    · simp [Posted.precedes_asymm hBefore]
  have hSorted := List.pairwise_mergeSort hTrans hTotal scheduler.queue
  have hNumbers : scheduler.sorted.Pairwise (·.sequence ≠ ·.sequence) := by
    refine (scheduler.sorted_perm.pairwise_iff fun h => Ne.symm h).mpr ?_
    exact h.ascending.imp Nat.ne_of_lt
  refine (hSorted.and hNumbers).imp ?_
  rintro a b ⟨hBefore, hNumber⟩
  rw [Bool.not_eq_true', ← Bool.not_eq_true, Posted.precedes_iff] at hBefore
  rw [Posted.precedes_iff]
  omega

theorem Filed.sorted_eq {scheduler : Scheduler} (h : scheduler.Filed) {tasks : List Posted}
    (hPerm : tasks.Perm scheduler.queue) (hSorted : tasks.Pairwise (·.precedes ·)) :
    scheduler.sorted = tasks :=
  Posted.eq_of_perm (scheduler.sorted_perm.trans hPerm.symm) h.pairwise_sorted hSorted

end Scheduler

end Scrim
