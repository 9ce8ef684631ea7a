import Chip8.Main
import Chip8.Frame.Plane
import Chip8.Keypad.Stream
import Chip8.Memory.Access
import Chip8.Proofs.Decoding
import Chip8.Proofs.Digits
import Chip8.Proofs.Text.Reading
import Chip8.Proofs.Words
import Chip8.Proofs.Timers
import Chip8.Proofs.Sinks
import Chip8.Proofs.Keypad.Typing
import Chip8.Proofs.Frame.Sprite
import Chip8.Proofs.Frame.Parity
import Chip8.Proofs.Frame.Planes
import Chip8.Proofs.Machine.Execute
import Chip8.Proofs.Machine.Drawing
import Chip8.Proofs.Machine.Failure
import Chip8.Proofs.Machine.Footprint
import Chip8.Proofs.Machine.Effects
import Chip8.Proofs.Frame.Texts
import Chip8.Proofs.Machine.Run
import Chip8.Proofs.Machine.Calls
import Chip8.Proofs.Machine.ProgramCounter
import Chip8.Proofs.Machine.Awaiting
import Chip8.Proofs.Machine.Devices
import Chip8.Proofs.Machine.Logs
import Chip8.Proofs.Ticker.Threads
import Chip8.Proofs.Ticker.Tones
import Chip8.Proofs.Console.Waiting
import Chip8.Proofs.Console.Moves
import Chip8.Proofs.Console.Loop
import Chip8.Proofs.Machine.Timing
import Chip8.Proofs.Console.Ticking
import Chip8.Proofs.Console.Quitting
import Chip8.Proofs.Console.Tracing
import Chip8.Proofs.Console.Suspension
import Chip8.Proofs.Console.Restoring
import Chip8.Proofs.Console.Bounds
import Chip8.Proofs.Console.Faults
import Chip8.Proofs.Console.Devices
import Chip8.Proofs.Console.Retrying
import Chip8.Proofs.Console.Pictures
import Chip8.Proofs.Console.Outcome
import Chip8.Proofs.Diagnostics
import Chip8.Proofs.Console.Streams
import Chip8.Proofs.Bare.Checked
import Chip8.Proofs.Bare.Drawing
import Chip8.Proofs.Bare.Memory
import Chip8.Proofs.Bare.Machine
import Chip8.Proofs.Bare.Agreement
import Chip8.Proofs.Bare.Run
import Chip8.Proofs.Memory.Accesses
import Chip8.Proofs.Memory.Fetching
import Chip8.Proofs.Memory.Loading
import Chip8.Proofs.Machine.Arithmetic
import Chip8.Proofs.Machine.Blocks
import Chip8.Proofs.Console.Loading
import Chip8.Proofs.Console.Glyphs
