import Scrim.Controller

/-!
# Dumps

The controller as text, one line for each thing worth knowing.
-/

namespace Scrim.World

def dumpLayer (world : World) (layer : Layer) (surface : Surface) : String :=
  let target := world.controller.targets.alpha.get layer
  s!"  {layer.name}: viewAlpha={plainText surface.alpha} alpha={plainText target} "
    ++ s!"tint={surface.tint.hex}\n"

def dump (world : World) : String :=
  let controller := world.controller
  let layers := Layer.all.filterMap fun layer => (world.surface? layer).map (world.dumpLayer layer)
  s!" ScrimController:\n  state: {controller.state.name}\n" ++ String.join layers
    ++ s!"  tracking={controller.expansion.tracking}\n"
    ++ s!"  defaultScrimAlpha={plainText controller.catalog.defaultAlpha}\n"
    ++ s!"  expansionFraction={plainText controller.expansion.panel}\n"

end Scrim.World
