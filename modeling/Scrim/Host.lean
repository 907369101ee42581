import Scrim.Alarm
import Scrim.Callback
import Scrim.Log
import Scrim.Scheduler
import Scrim.State
import Scrim.Surface
import Scrim.Layer
import Scrim.Visibility
import Scrim.WakeLock

/-!
# The host

Everything around the controller: the clock and its queue, the alarm, the surfaces, and the
theme. The three main layers are always attached and the auxiliary layer may be missing. The
`Journal` keeps what the host was told, newest first.
-/

namespace Scrim

structure Surfaces where
  front : Surface := {}
  behind : Surface := {}
  notifications : Surface := {}
  auxiliary : Option Surface := none
deriving Repr

namespace Surfaces

def get? (surfaces : Surfaces) : Layer → Option Surface
  | .front => some surfaces.front
  | .behind => some surfaces.behind
  | .notifications => some surfaces.notifications
  | .auxiliary => surfaces.auxiliary

/-- Changes the surface of a layer; a missing one stays missing. -/
def modify (surfaces : Surfaces) (layer : Layer) (change : Surface → Surface) : Surfaces :=
  match layer with
  | .front => { surfaces with front := change surfaces.front }
  | .behind => { surfaces with behind := change surfaces.behind }
  | .notifications => { surfaces with notifications := change surfaces.notifications }
  | .auxiliary => { surfaces with auxiliary := surfaces.auxiliary.map change }

def has (surfaces : Surfaces) (layer : Layer) : Bool :=
  (surfaces.get? layer).isSome

@[simp] theorem get?_modify_self (surfaces : Surfaces) (layer : Layer)
    (change : Surface → Surface) :
    (surfaces.modify layer change).get? layer = (surfaces.get? layer).map change := by
  cases layer <;> rfl

theorem get?_modify_of_ne (surfaces : Surfaces) {layer other : Layer}
    (change : Surface → Surface) (h : other ≠ layer) :
    (surfaces.modify layer change).get? other = surfaces.get? other := by
  cases layer <;> cases other <;> simp_all [modify, get?]

@[simp] theorem has_modify (surfaces : Surfaces) (layer other : Layer)
    (change : Surface → Surface) :
    (surfaces.modify layer change).has other = surfaces.has other := by
  cases layer <;> cases other <;> simp [modify, has, get?]

end Surfaces

structure Host where
  scheduler : Scheduler := {}
  alarm : Alarm := {}
  surfaces : Surfaces
  /-- The palette of the current theme. -/
  theme : Palette
deriving Repr

/-- A notification that reached a callback, and the number of the registration it came
through; a callback that was finished without being registered has none. -/
structure CallbackEvent where
  timeMs : Nat
  registration : Option Nat
  label : String
  kind : Notification
  /-- Whether an animation ran or a black frame was held at that moment. -/
  busy : Bool
deriving DecidableEq, Repr

structure Dispatch where
  timeMs : Nat
  state : State
  behindAlpha : Float32
deriving Repr

structure Journal where
  callbackEvents : List CallbackEvent := []
  dispatches : List Dispatch := []
  visibilityChanges : List Visibility := []
  lockCalls : List LockCall := []
  log : List Log.Line := []
deriving Repr

end Scrim
