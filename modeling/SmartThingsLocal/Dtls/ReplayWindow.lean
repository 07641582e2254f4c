import Mathlib.Tactic

/-!
# The anti-replay window

`_ReplayWindow` of the DTLS PSK engine: the highest sequence number that was accepted
and a bitmap of the numbers up to 63 below it.
-/

namespace SmartThingsLocal

/-- Width of the anti-replay window. -/
def replayWindow : ℕ := 64

structure ReplayWindow where
  bitmap : ℕ := 0
  highest : ℤ := -1
  deriving DecidableEq, Repr

namespace ReplayWindow

/-- Whether `seq` is a replay, without committing to it. -/
def isReplay (window : ReplayWindow) (seq : ℕ) : Bool :=
  if (seq : ℤ) > window.highest then false
  else
    let offset := (window.highest - seq).toNat
    decide (offset ≥ replayWindow) || window.bitmap &&& (1 <<< offset) != 0

/-- Commit an authenticated sequence number to the window. -/
def accept (window : ReplayWindow) (seq : ℕ) : ReplayWindow :=
  if (seq : ℤ) > window.highest then
    let shift := min (seq - window.highest).toNat replayWindow
    { bitmap := ((window.bitmap <<< shift) ||| 1) &&& ((1 <<< replayWindow) - 1), highest := seq }
  else
    let offset := (window.highest - seq).toNat
    if offset < replayWindow then { window with bitmap := window.bitmap ||| (1 <<< offset) }
    else window

end ReplayWindow

end SmartThingsLocal
