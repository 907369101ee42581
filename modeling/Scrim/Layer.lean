/-!
# Layers

A scrim is drawn as up to four overlays, from the one in front of the notifications down to
the optional one under an expanded auxiliary surface. `Layer` names them and `PerLayer` holds
one value for each. The main statements say that a value written for a layer is the one read
back, and that every other layer keeps its own.
-/

namespace Scrim

inductive Layer where
  /-- In front of the notifications; dims under the bouncer and covers a blanked display. -/
  | front
  /-- Behind the notifications, over the wallpaper. -/
  | behind
  /-- Behind the notification stack, inside the shade. -/
  | notifications
  /-- Under an expanded auxiliary surface; a host may leave it out. -/
  | auxiliary
deriving DecidableEq, Repr

namespace Layer

/-- Every layer, in the order in which layers are updated and listed. -/
def all : List Layer := [.front, .behind, .notifications, .auxiliary]

theorem mem_all (layer : Layer) : layer ∈ all := by
  cases layer <;> simp [all]

def index : Layer → Nat
  | .front => 0
  | .behind => 1
  | .notifications => 2
  | .auxiliary => 3

def key : Layer → String
  | .front => "front"
  | .behind => "behind"
  | .notifications => "notifications"
  | .auxiliary => "auxiliary"

def ofKey? (word : String) : Option Layer :=
  all.find? fun layer => layer.key = word

def name : Layer → String
  | .front => "front_scrim"
  | .behind => "behind_scrim"
  | .notifications => "notifications_scrim"
  | .auxiliary => "auxiliary_scrim"

/-- The short name of a layer in a printed trace line. -/
def shortName : Layer → String
  | .front => "front"
  | .behind => "behind"
  | .notifications => "notif"
  | .auxiliary => "aux"

theorem ofKey?_key (layer : Layer) : ofKey? layer.key = some layer := by
  cases layer <;> decide

end Layer

structure PerLayer (α : Type) where
  front : α
  behind : α
  notifications : α
  auxiliary : α
deriving BEq, DecidableEq, Repr

namespace PerLayer

variable {α β : Type}

def splat (value : α) : PerLayer α := ⟨value, value, value, value⟩

instance [Inhabited α] : Inhabited (PerLayer α) := ⟨splat default⟩

def get (values : PerLayer α) : Layer → α
  | .front => values.front
  | .behind => values.behind
  | .notifications => values.notifications
  | .auxiliary => values.auxiliary

def set (values : PerLayer α) (layer : Layer) (value : α) : PerLayer α :=
  match layer with
  | .front => { values with front := value }
  | .behind => { values with behind := value }
  | .notifications => { values with notifications := value }
  | .auxiliary => { values with auxiliary := value }

/-- The values with their layers, in the order of `Layer.all`. -/
def toList (values : PerLayer α) : List (Layer × α) :=
  Layer.all.map fun layer => (layer, values.get layer)

@[simp] theorem get_splat (value : α) (layer : Layer) : (splat value).get layer = value := by
  cases layer <;> rfl

@[simp] theorem get_set_self (values : PerLayer α) (layer : Layer) (value : α) :
    (values.set layer value).get layer = value := by
  cases layer <;> rfl

theorem get_set_of_ne (values : PerLayer α) {layer other : Layer} (value : α)
    (h : other ≠ layer) : (values.set layer value).get other = values.get other := by
  cases layer <;> cases other <;> simp_all [set, get]

theorem ext_get {values others : PerLayer α}
    (h : ∀ layer, values.get layer = others.get layer) : values = others := by
  have hf := h .front
  have hb := h .behind
  have hn := h .notifications
  have ha := h .auxiliary
  cases values
  cases others
  simp_all [get]

end PerLayer

end Scrim
