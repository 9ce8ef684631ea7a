import Chip8.Error

set_option relaxedAutoImplicit false
set_option autoImplicit false

/-!
# Speakers

What the sound timer sounds. A speaker starts a tone and ends it; either may fail.

## Main definitions

* `Chip8.Speaker` — starting and ending a tone.
* `Chip8.Mute`, `Chip8.ToneSpeaker`, `Chip8.RecordingSpeaker` — speakers.
-/

namespace Chip8

/-- A device that can sound a tone. -/
class Speaker (σ : Type) where
  /-- Start the tone. -/
  beep : σ → Except Error Unit × σ
  /-- End the tone; there may be none. -/
  stop : σ → Except Error Unit × σ

/-- No sound. -/
structure Mute where
  deriving DecidableEq, Inhabited

instance : Speaker Mute where
  beep s := (.ok (), s)
  stop s := (.ok (), s)

/-- A speaker that sounds one pitch. The pitches it was told to sound, 0 for silence, wait in
`requests` for whoever drives the hardware. -/
structure ToneSpeaker where
  /-- The pitch in Hz. -/
  pitch : UInt16
  /-- Whether the tone is on. -/
  sounding : Bool := false
  /-- The pitches asked for, the last one first. -/
  requests : List UInt16 := []
  deriving DecidableEq

instance : Speaker ToneSpeaker where
  beep s := (.ok (), { s with sounding := true, requests := s.pitch :: s.requests })
  stop s :=
    if s.sounding then (.ok (), { s with sounding := false, requests := 0 :: s.requests })
    else (.ok (), s)

/-- What a speaker can be told. -/
inductive SoundCall where
  | beep
  | stop
  deriving DecidableEq, Repr

/-- A speaker that keeps what it was told, and may fail each time. -/
structure RecordingSpeaker where
  /-- What it was told, the last call first. -/
  calls : List SoundCall := []
  /-- Whether starting a tone fails. -/
  beepFails : Bool := false
  /-- Whether ending a tone fails. -/
  stopFails : Bool := false
  deriving DecidableEq, Inhabited

instance : Speaker RecordingSpeaker where
  beep s :=
    (if s.beepFails then .error (.sound "speaker broken") else .ok (),
      { s with calls := .beep :: s.calls })
  stop s :=
    (if s.stopFails then .error (.sound "speaker broken") else .ok (),
      { s with calls := .stop :: s.calls })

end Chip8
