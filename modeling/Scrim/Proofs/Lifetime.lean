import Mathlib.Data.List.Basic
import Mathlib.Data.List.Induction
import Scrim.Animation

/-!
# The lifetime of animations

Every animation that is started is shown for a while and then leaves in one of three ways: another
one is started on its layer, it is cancelled, or it is over, and this is reported once, in the step
that shows its last frame. A `Logbook` notes all of it, each note under the request that started the
animation, and `Animations.Life` says what the notes on one animation come to.

The main statement is `Animations.all_accounted`. It asks nothing of the times at which steps are
made, and nothing of how looks are computed.
-/

namespace Scrim

/-! ## Answers by layer -/

namespace Layer

variable {α : Type} {answer : Layer → Option α} {key : α → Layer}

/-- Who gives an answer, in order. -/
theorem map_filterMap (hKey : ∀ layer value, answer layer = some value → key value = layer)
    (layers : List Layer) :
    (layers.filterMap answer).map key = layers.filter fun layer => (answer layer).isSome := by
  induction layers with
  | nil => rfl
  | cons layer rest ih =>
      cases hAnswer : answer layer with
      | none => simp [hAnswer, ih]
      | some value => simp [hAnswer, ih, hKey layer value hAnswer]

/-- Every layer gives its own answer, once. -/
theorem filter_filterMap_all (hKey : ∀ layer value, answer layer = some value → key value = layer)
    (layer : Layer) : (all.filterMap answer).filter (key · = layer) = (answer layer).toList := by
  have hOwn (other : Layer) : (answer other).filter (key · = layer) =
      if other = layer then answer layer else none := by
    by_cases h : other = layer
    · subst h
      rw [if_pos rfl]
      cases hAnswer : answer other with
      | none => rfl
      | some value => simp [hKey other value hAnswer]
    · rw [if_neg h]
      cases hAnswer : answer other with
      | none => rfl
      | some value => simp [hKey other value hAnswer, h]
  rw [List.filter_filterMap]
  simp only [hOwn]
  cases answer layer with
  | none => simp
  | some value => cases layer <;> rfl

end Layer

/-! ## One step -/

/-- Two animations with the same timing and for the same registration. -/
structure Animation.Alike (animation other : Animation) : Prop where
  startTime : animation.startTime = other.startTime
  delay : animation.delay = other.delay
  duration : animation.duration = other.duration
  registration : animation.registration = other.registration

theorem Animation.Alike.refl (animation : Animation) : animation.Alike animation :=
  ⟨rfl, rfl, rfl, rfl⟩

theorem Animation.Alike.trans {animation other another : Animation} (h : animation.Alike other)
    (hOther : other.Alike another) : animation.Alike another where
  startTime := h.startTime.trans hOther.startTime
  delay := h.delay.trans hOther.delay
  duration := h.duration.trans hOther.duration
  registration := h.registration.trans hOther.registration

theorem Animation.alike_retarget (animation : Animation) (stop : Look) :
    (animation.retarget stop).Alike animation :=
  ⟨rfl, rfl, rfl, rfl⟩

namespace Animations

def frame? (animations : Animations) (now : Nat) (layer : Layer) : Option Frame :=
  match animations.get? layer with
  | some animation => if animation.hasBegun now then some ⟨layer, animation.look now⟩ else none
  | none => none

def completion? (animations : Animations) (now : Nat) (layer : Layer) : Option Completion :=
  match animations.get? layer with
  | some animation => if animation.isOver now then some ⟨layer, animation.registration⟩ else none
  | none => none

theorem frames_eq (animations : Animations) (now : Nat) :
    animations.frames now = Layer.all.filterMap (animations.frame? now) := rfl

theorem completions_eq (animations : Animations) (now : Nat) :
    animations.completions now = Layer.all.filterMap (animations.completion? now) := rfl

theorem layer_of_frame? {animations : Animations} {now : Nat} (layer : Layer) (frame : Frame)
    (h : animations.frame? now layer = some frame) : frame.layer = layer := by
  unfold frame? at h
  split at h
  · split at h
    · rw [← Option.some.inj h]
    · cases h
  · cases h

theorem layer_of_completion? {animations : Animations} {now : Nat} (layer : Layer)
    (completion : Completion) (h : animations.completion? now layer = some completion) :
    completion.layer = layer := by
  unfold completion? at h
  split at h
  · split at h
    · rw [← Option.some.inj h]
    · cases h
  · cases h

/-- Only an animation that runs is shown. -/
theorem isAnimating_of_mem_frames {animations : Animations} {now : Nat} {frame : Frame}
    (h : frame ∈ animations.frames now) : animations.isAnimating frame.layer = true := by
  rw [frames_eq] at h
  obtain ⟨layer, -, hFrame⟩ := List.mem_filterMap.mp h
  rw [layer_of_frame? layer frame hFrame]
  unfold frame? at hFrame
  unfold isAnimating
  split at hFrame
  · next animation hRuns => rw [hRuns]; rfl
  · cases hFrame

/-- Only an animation that runs is completed. -/
theorem isAnimating_of_mem_completions {animations : Animations} {now : Nat}
    {completion : Completion} (h : completion ∈ animations.completions now) :
    animations.isAnimating completion.layer = true := by
  rw [completions_eq] at h
  obtain ⟨layer, -, hCompletion⟩ := List.mem_filterMap.mp h
  rw [layer_of_completion? layer completion hCompletion]
  unfold completion? at hCompletion
  unfold isAnimating
  split at hCompletion
  · next animation hRuns => rw [hRuns]; rfl
  · cases hCompletion

/-- What is over is shown a last time. -/
theorem isSome_frame?_of_completion? {animations : Animations} {now : Nat} {layer : Layer}
    (h : (animations.completion? now layer).isSome = true) :
    (animations.frame? now layer).isSome = true := by
  unfold completion? at h
  unfold frame?
  split at h
  · next animation hRuns =>
    split at h
    · next hOver =>
      have hBegun : animation.hasBegun now = true := (Bool.and_eq_true_iff.mp hOver).1
      simp [hBegun]
    · cases h
  · cases h

/-- A step shows every layer whose animation has begun, in the order of the layers. -/
theorem map_layer_frames (animations : Animations) (now : Nat) :
    (animations.frames now).map (·.layer) = Layer.all.filter fun layer =>
      (animations.get? layer).any fun animation => animation.startTime + animation.delay ≤ now := by
  rw [frames_eq, Layer.map_filterMap layer_of_frame?]
  refine List.filter_congr fun layer _ => ?_
  unfold frame?
  cases animations.get? layer with
  | none => rfl
  | some animation =>
      simp only [Option.any_some, Animation.hasBegun, Animation.begins]
      by_cases h : animation.startTime + animation.delay ≤ now
      · simp [h]
      · simp [h]

theorem map_layer_completions_sublist (animations : Animations) (now : Nat) :
    ((animations.completions now).map (·.layer)).Sublist
      ((animations.frames now).map (·.layer)) := by
  rw [frames_eq, completions_eq, Layer.map_filterMap layer_of_frame?,
    Layer.map_filterMap layer_of_completion?]
  exact List.monotone_filter_right _ fun _ h => isSome_frame?_of_completion? h

/-- Retargeting an animation changes neither its timing nor its registration. -/
theorem exists_alike_of_retarget {animations : Animations} {other : Layer} {animation : Animation}
    (layer : Layer) (stop : Look) (now : Nat) (h : animations.get? other = some animation) :
    ∃ current, (animations.retarget layer stop now).1.get? other = some current ∧
      current.Alike animation ∧ (other ≠ layer → current = animation) := by
  unfold retarget
  cases hRuns : animations.get? layer with
  | none => exact ⟨animation, h, .refl animation, fun _ => rfl⟩
  | some moved =>
      by_cases hLayer : other = layer
      · subst hLayer
        obtain rfl := Option.some.inj (hRuns.symm.trans h)
        exact ⟨_, get?_start_self .., moved.alike_retarget stop,
          fun hOther => absurd rfl hOther⟩
      · refine ⟨animation, ?_, .refl animation, fun _ => rfl⟩
        exact (PerLayer.get_set_of_ne _ _ hLayer).trans h

/-- No animation comes of retargeting. -/
theorem get?_retarget_eq_none {animations : Animations} {layer other : Layer} {stop : Look}
    {now : Nat} (h : animations.get? other = none) :
    (animations.retarget layer stop now).1.get? other = none := by
  unfold retarget
  cases hRuns : animations.get? layer with
  | none => exact h
  | some moved =>
      have hLayer : other ≠ layer := by
        rintro rfl
        cases h.symm.trans hRuns
      exact (PerLayer.get_set_of_ne _ _ hLayer).trans h

/-! ## Requests and notes -/

inductive Request where
  | start (layer : Layer) (animation : Animation)
  | cancel (layer : Layer)
  | retarget (layer : Layer) (stop : Look) (now : Nat)
  | step (now : Nat)

def Request.run (request : Request) (animations : Animations) : Animations :=
  match request with
  | .start layer animation => animations.start layer animation
  | .cancel layer => animations.cancel layer
  | .retarget layer stop now => (animations.retarget layer stop now).1
  | .step now => animations.advance now

inductive Note where
  | shown (frame : Frame)
  | completed (completion : Completion)
  | replaced
  | cancelled

structure Entry where
  /-- The position of the request that started the animation. -/
  origin : Nat
  /-- The position of the request that led to the note. -/
  turn : Nat
  note : Note

def notes (origin : Nat) (entries : List Entry) : List (Nat × Note) :=
  (entries.filter (·.origin = origin)).map fun entry => (entry.turn, entry.note)

theorem notes_append (origin : Nat) (entries more : List Entry) :
    notes origin (entries ++ more) = notes origin entries ++ notes origin more := by
  simp [notes]

theorem notes_eq_nil {origin : Nat} {entries : List Entry}
    (h : ∀ entry ∈ entries, entry.origin ≠ origin) : notes origin entries = [] := by
  simpa [notes] using h

/-- The running animations, and notes on all that ever ran. -/
structure Logbook where
  animations : Animations := {}
  /-- Which request started the animation that runs on a layer. -/
  origins : PerLayer Nat := .splat 0
  /-- How many requests were made so far. -/
  turn : Nat := 0
  entries : List Entry := []

namespace Logbook

def entry (logbook : Logbook) (layer : Layer) (note : Note) : Entry :=
  ⟨logbook.origins.get layer, logbook.turn, note⟩

/-- The note that the animation of a layer leaves behind, if one runs there. -/
def leave (logbook : Logbook) (layer : Layer) (note : Note) : List Entry :=
  if logbook.animations.isAnimating layer then [logbook.entry layer note] else []

/-- The notes that a request leads to. Those on a step are its frames and its completions. -/
def news (logbook : Logbook) : Request → List Entry
  | .start layer _ => logbook.leave layer .replaced
  | .cancel layer => logbook.leave layer .cancelled
  | .retarget _ _ _ => []
  | .step now =>
    (logbook.animations.frames now).map (fun frame => logbook.entry frame.layer (.shown frame)) ++
      (logbook.animations.completions now).map fun completion =>
        logbook.entry completion.layer (.completed completion)

def ask (logbook : Logbook) (request : Request) : Logbook where
  animations := request.run logbook.animations
  origins := match request with
    | .start layer _ => logbook.origins.set layer logbook.turn
    | _ => logbook.origins
  turn := logbook.turn + 1
  entries := logbook.entries ++ logbook.news request

def play (requests : List Request) : Logbook :=
  requests.foldl ask {}

theorem play_snoc (requests : List Request) (request : Request) :
    play (requests ++ [request]) = (play requests).ask request := by
  unfold play
  rw [List.foldl_append]
  rfl

end Logbook

/-! ## Lives -/

/-- The last notes on an animation of a layer that is gone. -/
inductive Ending (requests : List Request) (origin : Nat) (layer : Layer) (animation : Animation) :
    List (Nat × Note) → Prop where
  | replaced {turn : Nat} {other : Animation} (later : origin < turn)
      (asked : requests[turn]? = some (.start layer other)) :
      Ending requests origin layer animation [(turn, .replaced)]
  | cancelled {turn : Nat} (later : origin < turn)
      (asked : requests[turn]? = some (.cancel layer)) :
      Ending requests origin layer animation [(turn, .cancelled)]
  /-- The step that shows the last frame reports the completion. -/
  | completed {turn now : Nat} {look : Look} (later : origin < turn)
      (asked : requests[turn]? = some (.step now)) :
      Ending requests origin layer animation
        [(turn, .shown ⟨layer, look⟩), (turn, .completed ⟨layer, animation.registration⟩)]

def Shows (requests : List Request) (layer : Layer) (note : Nat × Note) : Prop :=
  ∃ now look, requests[note.1]? = some (.step now) ∧ note.2 = .shown ⟨layer, look⟩

/-- What became of an animation that a request started: it runs, or it left in one way. -/
inductive Life (requests : List Request) (logbook : Logbook) (origin : Nat) (layer : Layer)
    (animation : Animation) : Prop where
  | running {current : Animation}
      (shows : ∀ note ∈ notes origin logbook.entries, Shows requests layer note)
      (runs : logbook.animations.get? layer = some current)
      (own : logbook.origins.get layer = origin) (alike : current.Alike animation)
  | gone {shown ending : List (Nat × Note)}
      (noted : notes origin logbook.entries = shown ++ ending)
      (shows : ∀ note ∈ shown, Shows requests layer note)
      (ending : Ending requests origin layer animation ending)
      (gone : ∀ other, logbook.animations.isAnimating other = true →
        logbook.origins.get other ≠ origin)

section Later

variable {requests : List Request} {origin : Nat} {layer : Layer} {animation : Animation}

/-- Requests stay where they are when another is made. -/
theorem getElem?_snoc {turn : Nat} {request : Request} (h : requests[turn]? = some request)
    (next : Request) : (requests ++ [next])[turn]? = some request := by
  rw [List.getElem?_append_left (List.getElem?_eq_some_iff.mp h).1, h]

theorem Ending.snoc {ending : List (Nat × Note)} (h : Ending requests origin layer animation ending)
    (next : Request) : Ending (requests ++ [next]) origin layer animation ending := by
  cases h with
  | replaced later asked => exact .replaced later (getElem?_snoc asked next)
  | cancelled later asked => exact .cancelled later (getElem?_snoc asked next)
  | completed later asked => exact .completed later (getElem?_snoc asked next)

theorem Shows.snoc {note : Nat × Note} (h : Shows requests layer note) (next : Request) :
    Shows (requests ++ [next]) layer note := by
  obtain ⟨now, look, hAsked, hNote⟩ := h
  exact ⟨now, look, getElem?_snoc hAsked next, hNote⟩

end Later

/-- The logbook knows where everything that runs, or ever ran, comes from. This is what every
request keeps, and where an animation comes from tells it from all others, later ones on its layer
included. -/
structure Logbook.Kept (requests : List Request) (logbook : Logbook) : Prop where
  turn : logbook.turn = requests.length
  held : ∀ layer, logbook.animations.isAnimating layer = true →
    ∃ animation, requests[logbook.origins.get layer]? = some (.start layer animation)
  known : ∀ entry ∈ logbook.entries,
    ∃ layer animation, requests[entry.origin]? = some (.start layer animation)
  lives : ∀ origin layer animation, requests[origin]? = some (.start layer animation) →
    Life requests logbook origin layer animation

namespace Logbook

variable {requests : List Request} {logbook : Logbook} {origin : Nat} {layer : Layer}

/-- Two animations that run were not started by the same request. -/
theorem Kept.layer_unique (h : logbook.Kept requests) {other : Layer}
    (hRuns : logbook.animations.isAnimating layer = true)
    (hOther : logbook.animations.isAnimating other = true)
    (hSame : logbook.origins.get other = logbook.origins.get layer) : other = layer := by
  obtain ⟨animation, hStart⟩ := h.held layer hRuns
  obtain ⟨animation', hStart'⟩ := h.held other hOther
  rw [hSame, hStart] at hStart'
  cases hStart'
  rfl

/-! ### News of one animation -/

/-- What is noted is noted about an animation that runs. -/
theorem exists_of_mem_news {request : Request} {entry : Entry} (h : entry ∈ logbook.news request) :
    ∃ layer, logbook.animations.isAnimating layer = true ∧
      entry.origin = logbook.origins.get layer := by
  have hLeave (layer : Layer) (note : Note) (h : entry ∈ logbook.leave layer note) :
      ∃ layer, logbook.animations.isAnimating layer = true ∧
        entry.origin = logbook.origins.get layer := by
    unfold leave at h
    split at h
    · next hRuns =>
      obtain rfl := List.mem_singleton.mp h
      exact ⟨layer, hRuns, rfl⟩
    · cases h
  cases request with
  | start layer _ => exact hLeave layer .replaced h
  | cancel layer => exact hLeave layer .cancelled h
  | retarget _ _ _ => cases h
  | step now =>
      rcases List.mem_append.mp h with h | h
      · obtain ⟨frame, hFrame, rfl⟩ := List.mem_map.mp h
        exact ⟨frame.layer, isAnimating_of_mem_frames hFrame, rfl⟩
      · obtain ⟨completion, hCompletion, rfl⟩ := List.mem_map.mp h
        exact ⟨completion.layer, isAnimating_of_mem_completions hCompletion, rfl⟩

/-- Nothing is noted about an animation that does not run. -/
theorem notes_news_of_gone (hGone : ∀ layer, logbook.animations.isAnimating layer = true →
    logbook.origins.get layer ≠ origin) (request : Request) :
    notes origin (logbook.news request) = [] := by
  refine notes_eq_nil fun entry hEntry hSame => ?_
  obtain ⟨layer, hRuns, hOrigin⟩ := exists_of_mem_news hEntry
  exact hGone layer hRuns (hOrigin.symm.trans hSame)

section Own

variable (h : logbook.Kept requests) (hRuns : logbook.animations.isAnimating layer = true)
include h hRuns

/-- Of what is noted of the layers that run, one animation gets what is noted of its layer. -/
theorem Kept.notes_map_entry {α : Type} {values : List α} {key : α → Layer} (note : α → Note)
    (hValues : ∀ value ∈ values, logbook.animations.isAnimating (key value) = true) :
    notes (logbook.origins.get layer) (values.map fun value =>
      logbook.entry (key value) (note value)) =
        (values.filter (key · = layer)).map fun value => (logbook.turn, note value) := by
  unfold notes
  rw [List.filter_map, List.map_map]
  refine congrArg _ (List.filter_congr fun value hValue => decide_eq_decide.mpr ⟨?_, ?_⟩)
  · exact h.layer_unique hRuns (hValues value hValue)
  · intro hLayer
    exact congrArg logbook.origins.get hLayer

theorem Kept.notes_leave (other : Layer) (note : Note) :
    notes (logbook.origins.get layer) (logbook.leave other note) =
      if other = layer then [(logbook.turn, note)] else [] := by
  by_cases hOther : other = layer
  · subst hOther
    simp [notes, leave, hRuns, entry]
  · rw [if_neg hOther]
    refine notes_eq_nil fun entry hEntry hSame => ?_
    unfold leave at hEntry
    split at hEntry
    · next hOtherRuns =>
      obtain rfl := List.mem_singleton.mp hEntry
      exact hOther (h.layer_unique hRuns hOtherRuns hSame)
    · cases hEntry

/-- A step notes on an animation what it gives to its layer. -/
theorem Kept.notes_news_step (now : Nat) :
    notes (logbook.origins.get layer) (logbook.news (.step now)) =
      (logbook.animations.frame? now layer).toList.map (fun frame =>
        (logbook.turn, .shown frame)) ++
      (logbook.animations.completion? now layer).toList.map fun completion =>
        (logbook.turn, .completed completion) := by
  unfold news
  rw [notes_append, h.notes_map_entry hRuns _ fun frame => isAnimating_of_mem_frames,
    h.notes_map_entry hRuns _ fun completion => isAnimating_of_mem_completions,
    frames_eq, completions_eq, Layer.filter_filterMap_all layer_of_frame?,
    Layer.filter_filterMap_all layer_of_completion?]

end Own

/-! ### The next request -/

theorem origins_ask_start (logbook : Logbook) (layer : Layer) (animation : Animation) :
    (logbook.ask (.start layer animation)).origins.get layer = logbook.turn :=
  PerLayer.get_set_self ..

/-- Only a start on a layer changes what the animation of the layer comes from. -/
theorem origins_ask {request : Request} (h : ∀ animation, request ≠ .start layer animation) :
    (logbook.ask request).origins.get layer = logbook.origins.get layer := by
  cases request with
  | start other animation =>
      refine PerLayer.get_set_of_ne _ _ ?_
      rintro rfl
      exact h animation rfl
  | cancel _ => rfl
  | retarget _ _ _ => rfl
  | step _ => rfl

/-- Only a start on a layer lets an animation run there. -/
theorem isAnimating_of_ask {request : Request} (h : ∀ animation, request ≠ .start layer animation)
    (hRuns : (logbook.ask request).animations.isAnimating layer = true) :
    logbook.animations.isAnimating layer = true := by
  cases hBefore : logbook.animations.get? layer with
  | some animation => simp [isAnimating, hBefore]
  | none =>
      suffices hAfter : (request.run logbook.animations).get? layer = none by
        simp [isAnimating, ask, hAfter] at hRuns
      cases request with
      | start other animation =>
          refine (PerLayer.get_set_of_ne _ _ ?_).trans hBefore
          rintro rfl
          exact h animation rfl
      | cancel other =>
          by_cases hLayer : layer = other
          · rw [hLayer]
            exact get?_cancel_self ..
          · exact (PerLayer.get_set_of_ne _ _ hLayer).trans hBefore
      | retarget other stop now => exact get?_retarget_eq_none hBefore
      | step now => simp [Request.run, hBefore, keep?]

/-- What left stays gone: a later start has a position of its own. -/
theorem Kept.gone_ask (h : logbook.Kept requests) {request : Request}
    (hOrigin : origin < requests.length)
    (hGone : ∀ layer, (∀ animation, request ≠ .start layer animation) →
      logbook.animations.isAnimating layer = true →
      (logbook.ask request).animations.isAnimating layer = true →
      logbook.origins.get layer ≠ origin) (layer : Layer)
    (hRuns : (logbook.ask request).animations.isAnimating layer = true) :
    (logbook.ask request).origins.get layer ≠ origin := by
  by_cases hStart : ∃ animation, request = .start layer animation
  · obtain ⟨animation, rfl⟩ := hStart
    rw [origins_ask_start, h.turn]
    exact Nat.ne_of_gt hOrigin
  · have hOther : ∀ animation, request ≠ .start layer animation :=
      fun animation hSame => hStart ⟨animation, hSame⟩
    rw [origins_ask hOther]
    exact hGone layer hOther (isAnimating_of_ask hOther hRuns) hRuns

theorem notes_ask (logbook : Logbook) (request : Request) (origin : Nat) :
    notes origin (logbook.ask request).entries =
      notes origin logbook.entries ++ notes origin (logbook.news request) :=
  notes_append ..

/-- The next request takes the turn that the logbook has come to. -/
theorem Kept.getElem?_turn (h : logbook.Kept requests) (request : Request) :
    (requests ++ [request])[logbook.turn]? = some request := by
  simp [h.turn]

theorem Kept.origin_lt (h : logbook.Kept requests)
    (hRuns : logbook.animations.isAnimating layer = true) :
    logbook.origins.get layer < requests.length := by
  obtain ⟨_, hStart⟩ := h.held layer hRuns
  exact (List.getElem?_eq_some_iff.mp hStart).1

section Next

variable {animation current : Animation} {request : Request}
  (hShows : ∀ note ∈ notes (logbook.origins.get layer) logbook.entries, Shows requests layer note)
include hShows

/-- An animation goes on that a request only shows, or lets alone. -/
theorem life_of_stays
    (hNews : ∀ note ∈ notes (logbook.origins.get layer) (logbook.news request),
      Shows (requests ++ [request]) layer note)
    (hOther : ∀ later, request ≠ .start layer later)
    (hAfter : (request.run logbook.animations).get? layer = some current)
    (hAlike : current.Alike animation) :
    Life (requests ++ [request]) (logbook.ask request) (logbook.origins.get layer) layer
      animation := by
  refine .running (fun note hNote => ?_) hAfter (origins_ask hOther) hAlike
  rw [notes_ask] at hNote
  rcases List.mem_append.mp hNote with hNote | hNote
  · exact (hShows note hNote).snoc request
  · exact hNews note hNote

variable (h : logbook.Kept requests) (hRuns : logbook.animations.get? layer = some current)
include h hRuns

/-- An animation leaves where another one is started, or where none is left. -/
theorem Kept.life_of_leaves
    (hEnding : Ending (requests ++ [request]) (logbook.origins.get layer) layer animation
      (notes (logbook.origins.get layer) (logbook.news request)))
    (hLeaves : (∃ later, request = .start layer later) ∨
      (request.run logbook.animations).get? layer = none) :
    Life (requests ++ [request]) (logbook.ask request) (logbook.origins.get layer) layer
      animation := by
  have hIs : logbook.animations.isAnimating layer = true := by simp [isAnimating, hRuns]
  refine .gone (notes_ask ..) (fun note hNote => (hShows note hNote).snoc request) hEnding ?_
  refine h.gone_ask (h.origin_lt hIs) fun other hOther hBefore hAfter hSame => ?_
  obtain rfl := h.layer_unique hIs hBefore hSame
  rcases hLeaves with ⟨later, hStart⟩ | hNone
  · exact hOther later hStart
  · simp [isAnimating, ask, hNone] at hAfter

/-- A step either shows the end of an animation, or shows it, or comes before it has begun. -/
theorem Kept.life_step (now : Nat) (hAlike : current.Alike animation) :
    Life (requests ++ [.step now]) (logbook.ask (.step now)) (logbook.origins.get layer) layer
      animation := by
  have hIs : logbook.animations.isAnimating layer = true := by simp [isAnimating, hRuns]
  have hNews := h.notes_news_step hIs now
  have hTurn := h.getElem?_turn (.step now)
  by_cases hOver : current.isOver now = true
  · have hBegun : current.hasBegun now = true := (Bool.and_eq_true_iff.mp hOver).1
    refine h.life_of_leaves hShows hRuns ?_ (.inr ?_)
    · simp only [frame?, completion?, hRuns, hBegun, hOver, if_true, Option.toList_some,
        List.map_cons, List.map_nil, List.singleton_append] at hNews
      rw [hNews, hAlike.registration]
      exact .completed (h.turn ▸ h.origin_lt hIs) hTurn
    · simp [Request.run, hRuns, keep?, hOver]
  · refine life_of_stays hShows (fun note hNote => ?_) (fun _ => nofun) ?_ hAlike
    · simp only [frame?, completion?, hRuns, hOver, Bool.false_eq_true, if_false,
        Option.toList_none, List.map_nil, List.append_nil] at hNews
      rw [hNews] at hNote
      obtain ⟨frame, hFrame, rfl⟩ := List.mem_map.mp hNote
      split at hFrame
      · obtain rfl := List.mem_singleton.mp hFrame
        exact ⟨now, _, hTurn, rfl⟩
      · cases hFrame
    · simp [Request.run, hRuns, keep?, hOver]

/-- What the next request does to an animation that runs. -/
theorem Kept.life_ask (request : Request) (hAlike : current.Alike animation) :
    Life (requests ++ [request]) (logbook.ask request) (logbook.origins.get layer) layer
      animation := by
  have hIs : logbook.animations.isAnimating layer = true := by simp [isAnimating, hRuns]
  have hTurn := h.getElem?_turn request
  have hLater : logbook.origins.get layer < logbook.turn := h.turn ▸ h.origin_lt hIs
  cases request with
  | step now => exact h.life_step hShows hRuns now hAlike
  | start other later =>
      have hNews := h.notes_leave hIs other .replaced
      by_cases hLayer : other = layer
      · subst hLayer
        rw [if_pos rfl] at hNews
        exact h.life_of_leaves hShows hRuns (hNews ▸ .replaced hLater hTurn) (.inl ⟨later, rfl⟩)
      · rw [if_neg hLayer] at hNews
        have hAfter :=
          PerLayer.get_set_of_ne logbook.animations.running (some later) (Ne.symm hLayer)
        refine life_of_stays hShows ?_ ?_ (hAfter.trans hRuns) hAlike
        · intro note hNote
          cases hNews ▸ hNote
        · rintro _ ⟨⟩
          exact hLayer rfl
  | cancel other =>
      have hNews := h.notes_leave hIs other .cancelled
      by_cases hLayer : other = layer
      · subst hLayer
        rw [if_pos rfl] at hNews
        exact h.life_of_leaves hShows hRuns (hNews ▸ .cancelled hLater hTurn)
          (.inr (get?_cancel_self ..))
      · rw [if_neg hLayer] at hNews
        have hAfter := PerLayer.get_set_of_ne logbook.animations.running none (Ne.symm hLayer)
        refine life_of_stays hShows ?_ (fun _ => nofun) (hAfter.trans hRuns) hAlike
        intro note hNote
        cases hNews ▸ hNote
  | retarget other stop now =>
      obtain ⟨moved, hAfter, hMoved, -⟩ := exists_alike_of_retarget other stop now hRuns
      exact life_of_stays hShows nofun (fun _ => nofun) hAfter (hMoved.trans hAlike)

end Next

/-- An animation that was just started runs, and nothing was noted about it yet. -/
theorem Kept.life_start (h : logbook.Kept requests) (layer : Layer) (animation : Animation) :
    Life (requests ++ [.start layer animation]) (logbook.ask (.start layer animation))
      requests.length layer animation := by
  have hOld : notes requests.length (logbook.ask (.start layer animation)).entries = [] := by
    refine notes_eq_nil fun entry hEntry => Nat.ne_of_lt ?_
    rcases List.mem_append.mp hEntry with hEntry | hEntry
    · obtain ⟨_, _, hStart⟩ := h.known entry hEntry
      exact (List.getElem?_eq_some_iff.mp hStart).1
    · obtain ⟨other, hRuns, hOrigin⟩ := exists_of_mem_news hEntry
      exact hOrigin ▸ h.origin_lt hRuns
  refine .running (fun note hNote => ?_) (get?_start_self ..) ?_ (.refl animation)
  · cases hOld ▸ hNote
  · rw [origins_ask_start, h.turn]

/-- One request more. -/
theorem Kept.ask (h : logbook.Kept requests) (request : Request) :
    (logbook.ask request).Kept (requests ++ [request]) := by
  constructor
  case turn => simp [Logbook.ask, h.turn]
  case held =>
    intro layer hRuns
    by_cases hAsked : ∃ animation, request = .start layer animation
    · obtain ⟨animation, rfl⟩ := hAsked
      exact ⟨animation, (origins_ask_start ..).symm ▸ h.getElem?_turn _⟩
    · have hOther : ∀ animation, request ≠ .start layer animation :=
        fun animation hSame => hAsked ⟨animation, hSame⟩
      obtain ⟨animation, hStart⟩ := h.held layer (isAnimating_of_ask hOther hRuns)
      exact ⟨animation, (origins_ask hOther).symm ▸ getElem?_snoc hStart request⟩
  case known =>
    intro entry hEntry
    suffices hStarted : ∃ layer animation,
        requests[entry.origin]? = some (.start layer animation) by
      obtain ⟨layer, animation, hStart⟩ := hStarted
      exact ⟨layer, animation, getElem?_snoc hStart request⟩
    rcases List.mem_append.mp hEntry with hEntry | hEntry
    · exact h.known entry hEntry
    · obtain ⟨layer, hRuns, hOrigin⟩ := exists_of_mem_news hEntry
      obtain ⟨animation, hStart⟩ := h.held layer hRuns
      exact ⟨layer, animation, hOrigin.symm ▸ hStart⟩
  case lives =>
    intro origin layer animation hStart
    rw [List.getElem?_append] at hStart
    split at hStart
    · next hOrigin =>
      cases h.lives origin layer animation hStart with
      | running shows runs own alike =>
          subst own
          exact h.life_ask shows runs request alike
      | gone noted shows ending gone =>
          have hNews := notes_news_of_gone gone request
          refine .gone ?_ (fun note hNote => (shows note hNote).snoc request) (ending.snoc request)
            (h.gone_ask hOrigin fun other _ hBefore _ => gone other hBefore)
          rw [notes_ask, hNews, List.append_nil, noted]
    · next hOrigin =>
      -- past the old requests there is only the new one
      obtain ⟨hTurn, -⟩ := List.getElem?_eq_some_iff.mp hStart
      rw [List.length_singleton] at hTurn
      obtain rfl : origin = requests.length := by omega
      rw [Nat.sub_self] at hStart
      obtain rfl := Option.some.inj hStart
      exact h.life_start layer animation

theorem kept (requests : List Request) : (play requests).Kept requests := by
  induction requests using List.reverseRecOn with
  | nil =>
      refine ⟨rfl, fun layer hRuns => ?_, nofun, nofun⟩
      cases layer <;> cases hRuns
  | append_singleton requests request ih =>
      rw [play_snoc]
      exact ih.ask request

end Logbook

/-! ## The whole account -/

structure Accounted (requests : List Request) : Prop where
  /-- Every animation that was started runs, or left in one way. -/
  lives : ∀ origin layer animation, requests[origin]? = some (.start layer animation) →
    Life requests (Logbook.play requests) origin layer animation
  /-- Nothing else is noted. -/
  known : ∀ entry ∈ (Logbook.play requests).entries,
    ∃ layer animation, requests[entry.origin]? = some (.start layer animation)
  /-- A step shows the animations that have begun, once each and in the order of the layers. -/
  frames : ∀ now, ((Logbook.play requests).animations.frames now).map (·.layer) =
    Layer.all.filter fun layer => ((Logbook.play requests).animations.get? layer).any
      fun animation => animation.startTime + animation.delay ≤ now
  /-- A step completes only what it shows. -/
  completions : ∀ now, (((Logbook.play requests).animations.completions now).map (·.layer)).Sublist
    (((Logbook.play requests).animations.frames now).map (·.layer))
  /-- Retargeting keeps the timing and the registration, and every other layer. -/
  retarget : ∀ layer stop now other,
    match (Logbook.play requests).animations.get? other with
    | none => ((Logbook.play requests).animations.retarget layer stop now).1.get? other = none
    | some animation => ∃ current,
      ((Logbook.play requests).animations.retarget layer stop now).1.get? other = some current ∧
        current.Alike animation ∧ (other ≠ layer → current = animation)

/-- Whatever is asked of animations, each of them is shown until it is replaced, cancelled or over,
and is completed exactly once if it is over and never otherwise. -/
theorem all_accounted (requests : List Request) : Accounted requests := by
  have hKept := Logbook.kept requests
  refine ⟨hKept.lives, hKept.known, map_layer_frames _, map_layer_completions_sublist _, ?_⟩
  intro layer stop now other
  split
  · next hNone => exact get?_retarget_eq_none hNone
  · next animation hRuns => exact exists_alike_of_retarget layer stop now hRuns

end Animations

end Scrim
