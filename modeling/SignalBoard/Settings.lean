import SignalBoard.Geometry
import SignalBoard.Outcome
import SignalBoard.Text.Blank

/-!
# Settings

Two settings are looked up by name when the program starts: the seed of the samples and the frame
rate.  Each is a numeral with white space around it allowed.  A setting that is absent or refused
keeps its default, and each refusal is reported once.
-/

namespace SignalBoard

set_option autoImplicit false

structure Settings where
  /-- The seed of the samples; without one, any seed will do. -/
  seed : Option UInt64
  frameRate : UInt32
  windowSize : Offset
  deriving DecidableEq

namespace Settings

def defaults : Settings := ⟨none, 60, ⟨800, 600⟩⟩

def seedName : String := "NEUROTIC_SEED"

def frameRateName : String := "NEUROTIC_FPS"

/-- Reads a numeral of at most `limit`, with white space around it allowed. -/
def readNumber (limit : Nat) (raw : String) : Except Text.NumeralFault Nat :=
  Text.readNumeral limit (Text.trim raw.toList)

def readSeed (raw? : Option String) : Outcome (Option UInt64) Unit :=
  match raw? with
  | none => .quiet none ()
  | some raw =>
    match readNumber (UInt64.size - 1) raw with
    | .ok seed => .quiet (some (.ofNat seed)) ()
    | .error fault => ⟨none, (), [.settingUnread seedName raw fault]⟩

/-- The frame rate that a text stands for, which is not zero. -/
def readFrameRate (raw? : Option String) : Outcome UInt32 Unit :=
  match raw? with
  | none => .quiet defaults.frameRate ()
  | some raw =>
    match readNumber (UInt32.size - 1) raw with
    | .ok 0 => ⟨defaults.frameRate, (), [.settingZero frameRateName]⟩
    | .ok rate => .quiet (.ofNat rate) ()
    | .error fault => ⟨defaults.frameRate, (), [.settingUnread frameRateName raw fault]⟩

def read (lookup : String → Option String) : Outcome Settings Unit :=
  (readSeed (lookup seedName)).andThen fun seed _ =>
    (readFrameRate (lookup frameRateName)).mapState fun rate =>
      { defaults with seed := seed, frameRate := rate }

end Settings

end SignalBoard
