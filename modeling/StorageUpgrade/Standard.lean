import StorageUpgrade.Standard.Keccak
import StorageUpgrade.Standard.Relaxed
import StorageUpgrade.Standard.Table.Basic
import StorageUpgrade.Standard.Terminal

/-!
# The standard platform

The platform that the program runs on.
-/

namespace StorageUpgrade
namespace Platform

/-- The platform that the program runs on. -/
def standard : Platform where
  readRelaxed := Json.Relaxed.parse
  drawTable := Table.draw
  render message := .ok (Terminal.render message)
  hash := Keccak.hash
  levels := 990

end Platform
end StorageUpgrade
