import Chip8.Proofs.Console.Moves
import Chip8.Proofs.Memory.Loading

set_option relaxedAutoImplicit false
set_option autoImplicit false

/-!
# Loading into a machine

A machine loads what its source delivers, or refuses it and stays as it is. Nothing but memory
changes, and there only the bytes of the program. A console that was just started has its program
counter where the program is loaded, so that its first step executes the program's first word.

## Main definitions

* `Chip8.Memory.Image` — a memory with a program in it, as compared with the memory before.

## Main results

* `Chip8.Memory.image_of_write` — what was written is a program in memory.
* `Chip8.Machine.loadProgram_of_breaks`, `Chip8.Machine.loadProgram_of_far`,
  `Chip8.Machine.loadProgram_of_long` — a source, an address and a program that are refused.
* `Chip8.Machine.loadProgram_of_fits` — a program that is loaded.
* `Chip8.Console.fetch_loadProgram`, `Chip8.Console.step_of_fetch` — the first word is fetched, and
  what is fetched is executed.
* `Chip8.Console.program_loading` — what becomes of a program.
-/

namespace Chip8

/-! ## Memory -/

namespace Memory

variable {m m' : Memory} {addr : UInt16} {data : List UInt8}

/-- A memory with a program in it, as compared with the memory before it was loaded. -/
structure Image (before : Memory) (addr : UInt16) (data : List UInt8) (after : Memory) : Prop where
  /-- The program lies at its address as it was delivered. -/
  verbatim : after.read addr data.length = .ok data
  /-- Every other byte is what it was. -/
  outside : ∀ k, k < addr.toNat ∨ addr.toNat + data.length ≤ k → after.bytes[k]? = before.bytes[k]?
  /-- The next program is loaded to where this one was. -/
  programStart : after.programStart = before.programStart
  /-- The glyphs are where they were. -/
  fontStart : after.fontStart = before.fontStart
  /-- Its words are fetched from there, two bytes apart. -/
  words : ∀ k w, (Bytes.words data)[k]? = some w →
    after.fetch (addr + UInt16.ofNat (2 * k)) = .ok (.ofWord w)

/-- What was written is a program in memory. -/
theorem image_of_write (h : m.write addr data = .ok m') : m.Image addr data m' := by
  have hholds := holds_of_write h
  obtain ⟨hin, -⟩ := write_eq_ok_iff.1 h
  obtain ⟨hprogram, hfont⟩ := starts_of_write h
  exact ⟨hholds.read_eq hin, fun k hk => getElem?_of_write h hk, hprogram, hfont,
    fun k w hw => hholds.fetch_word hw⟩

end Memory

/-! ## Machines -/

namespace Machine

variable {κ δ : Type} {m : Machine κ δ} {source source' : Source} {data : List UInt8}

/-- A source that breaks off is refused with its failure, whatever it delivered before. -/
theorem loadProgram_of_breaks {e : IoError} (h : source.Breaks e) :
    m.loadProgram source = (.error (.io e), m) := by
  simp only [loadProgram, Memory.loadProgram, h.readAll_eq]

/-- A program is refused if memory refuses it. -/
theorem loadProgram_of_install_error {e : Error} (h : source.Delivers data)
    (hinstall : m.memory.install data = .error e) : m.loadProgram source = (.error e, m) := by
  simp only [loadProgram, Memory.loadProgram, h.readAll_eq, hinstall]
  rfl

/-- A program whose address is past the end of memory is refused, even an empty one. -/
theorem loadProgram_of_far (h : source.Delivers data)
    (hfar : memorySize < m.memory.programStart.toNat) :
    m.loadProgram source = (.error (.outOfRange m.memory.programStart data.length), m) :=
  loadProgram_of_install_error h (Memory.install_of_far hfar)

/-- A program that is longer than what is left of memory is refused. -/
theorem loadProgram_of_long (h : source.Delivers data)
    (hstart : m.memory.programStart.toNat ≤ memorySize)
    (hlong : memorySize - m.memory.programStart.toNat < data.length) :
    m.loadProgram source =
      (.error (.programTooLarge data.length (memorySize - m.memory.programStart.toNat)), m) :=
  loadProgram_of_install_error h (Memory.install_of_long hstart hlong)

/-- A program that fits is loaded, and the write at the end is not refused. -/
theorem loadProgram_of_fits (h : source.Delivers data)
    (hfits : m.memory.programStart.toNat + data.length ≤ memorySize) :
    ∃ memory, m.memory.write m.memory.programStart data = .ok memory ∧
      m.loadProgram source = (.ok data.length, { m with memory }) := by
  have hlen : data.length ≤ memorySize - m.memory.programStart.toNat := by omega
  obtain ⟨memory, hwrite, hinstall⟩ := Memory.install_of_fits (m := m.memory) (by omega) hlen
  refine ⟨memory, hwrite, ?_⟩
  simp only [loadProgram, Memory.loadProgram, h.readAll_eq, hinstall]
  rfl

/-- A machine that refuses a program stays as it is. -/
theorem loadProgram_of_refused {e : Error} (h : (m.loadProgram source).1 = .error e) :
    (m.loadProgram source).2 = m := by
  unfold loadProgram at h ⊢
  split at h
  · rfl
  · cases h

/-- Two sources that are read as the same are loaded as the same. -/
theorem loadProgram_congr (h : source.readAll = source'.readAll) :
    m.loadProgram source = m.loadProgram source' := by
  simp only [loadProgram, Memory.loadProgram, h]

end Machine

/-! ## Consoles -/

namespace Console

variable {κ δ σ : Type}

/-- A console whose program counter is where programs are loaded fetches a program's first word. -/
theorem fetch_loadProgram {c : Console κ δ σ} {source : Source} {data : List UInt8} {w : UInt16}
    (hpc : c.machine.cpu.pc = c.machine.memory.programStart) (h : source.Delivers data)
    (hfits : c.machine.memory.programStart.toNat + data.length ≤ memorySize)
    (hw : (Bytes.words data).head? = some w) :
    (c.loadProgram source).1 = .ok data.length ∧
      (c.loadProgram source).2.machine.fetch = .ok (.ofWord w) := by
  obtain ⟨memory, hwrite, hload⟩ := Machine.loadProgram_of_fits h hfits
  have hmachine : (c.loadProgram source).2.machine = { c.machine with memory } :=
    congrArg Prod.snd hload
  refine ⟨congrArg Prod.fst hload, ?_⟩
  rw [List.head?_eq_getElem?] at hw
  have hfirst := (Memory.image_of_write hwrite).words 0 w hw
  have hzero : c.machine.cpu.pc + UInt16.ofNat (2 * 0) = c.machine.cpu.pc := UInt16.add_zero _
  rw [← hpc, hzero] at hfirst
  rw [hmachine]
  exact hfirst

variable [Keypad κ] [Panel δ]

/-- A console that does not wait executes what it fetches, and answers so unless the trace fails. -/
theorem step_of_fetch {c : Console κ δ σ} {ins : Instruction}
    (hawake : c.machine.cpu.awaiting = none) (hfetch : c.machine.fetch = .ok ins) :
    c.step.2.machine = (c.machine.execute ins).2 ∧
      (c.trace = none → c.step.1 = (c.machine.execute ins).1) := by
  rcases hrun : c.machine.execute ins with ⟨e | s, m'⟩
  · rw [(Takes.refused (.awake hawake) hfetch hrun).step_eq]
    exact ⟨rfl, fun _ => rfl⟩
  · rw [(Takes.done (.awake hawake) hfetch hrun).step_eq]
    refine ⟨machine_record .., fun htrace => ?_⟩
    simp only [record, onMachine, htrace]
    rfl

/-- **What becomes of a program.** Every source delivers some bytes or breaks off. A source that
breaks off is refused with its failure. Of what a source delivers, first a program whose address is
past the end of memory is refused, then one that is longer than what is left of memory. Whatever
else is delivered is written without fail: its size is answered and it lies in memory as it was
delivered, an odd last byte included, with all other bytes, and the rest of the machine, as they
were. The words of the program, half as many as it has bytes, are fetched from there one after
another. A refused program changes nothing, and the pieces in which a program is delivered do not
matter. A console that was started to load a program where it begins executes the program's first
word in its first step. -/
theorem program_loading :
    (∀ source : Source, (∃ data, source.Delivers data) ∨ ∃ e, source.Breaks e) ∧
    (∀ (m : Machine κ δ) (source : Source) (e : IoError), source.Breaks e →
      m.loadProgram source = (.error (.io e), m)) ∧
    (∀ (m : Machine κ δ) (source : Source) (data : List UInt8), source.Delivers data →
      let p := m.memory.programStart
      (4096 < p.toNat → m.loadProgram source = (.error (.outOfRange p data.length), m)) ∧
      (p.toNat ≤ 4096 → 4096 - p.toNat < data.length →
        m.loadProgram source = (.error (.programTooLarge data.length (4096 - p.toNat)), m)) ∧
      (p.toNat ≤ 4096 → data.length ≤ 4096 - p.toNat →
        ∃ memory, m.memory.write p data = .ok memory ∧
          m.loadProgram source = (.ok data.length, { m with memory }) ∧
          m.memory.Image p data memory ∧ (Bytes.words data).length = data.length / 2)) ∧
    (∀ (m : Machine κ δ) (source : Source) (e : Error), (m.loadProgram source).1 = .error e →
      (m.loadProgram source).2 = m) ∧
    (∀ (m : Machine κ δ) (source source' : Source),
      (∃ data, source.Delivers data ∧ source'.Delivers data) ∨
        (∃ e, source.Breaks e ∧ source'.Breaks e) →
      m.loadProgram source = m.loadProgram source') ∧
    ∀ (config : Config) (keypad : κ) (panel : δ) (speaker : σ) (random : RandomSource)
      (trace : Option Sink) (source : Source) (data : List UInt8) (w : UInt16),
      source.Delivers data → config.entryPoint.toNat + data.length ≤ 4096 →
      (Bytes.words data).head? = some w →
      let started : Console κ δ σ := start config keypad panel speaker random trace
      let c := (started.loadProgram source).2
      (started.loadProgram source).1 = .ok data.length ∧
        c.machine.cpu.pc = config.entryPoint ∧ c.machine.fetch = .ok (.ofWord w) ∧
        c.step.2.machine = (c.machine.execute (.ofWord w)).2 ∧
        (trace = none → c.step.1 = (c.machine.execute (.ofWord w)).1) := by
  refine ⟨Source.delivers_or_breaks, fun m source e => Machine.loadProgram_of_breaks,
    fun m source data h => ?_, fun m source e => Machine.loadProgram_of_refused,
    fun m source source' h => ?_,
    fun config keypad panel speaker random trace source data w h hfits hw => ?_⟩
  · intro p
    refine ⟨Machine.loadProgram_of_far h, Machine.loadProgram_of_long h, fun hstart hlen => ?_⟩
    have hfits : p.toNat + data.length ≤ memorySize := by simp only [memorySize]; omega
    obtain ⟨memory, hwrite, hload⟩ := Machine.loadProgram_of_fits h hfits
    exact ⟨memory, hwrite, hload, Memory.image_of_write hwrite, Bytes.length_words data⟩
  · refine Machine.loadProgram_congr ?_
    rcases h with ⟨data, h, h'⟩ | ⟨e, h, h'⟩
    · rw [h.readAll_eq, h'.readAll_eq]
    · rw [h.readAll_eq, h'.readAll_eq]
  · intro started c
    obtain ⟨hanswer, hfetch⟩ := fetch_loadProgram (c := started) rfl h hfits hw
    have hcpu : c.machine.cpu = Cpu.startingAt config.entryPoint := started.cpu_loadProgram source
    have hawake : c.machine.cpu.awaiting = none := by rw [hcpu]; rfl
    have htrace : c.trace = trace := rfl
    obtain ⟨hafter, hstep⟩ := step_of_fetch hawake hfetch
    exact ⟨hanswer, by rw [hcpu]; rfl, hfetch, hafter, fun hnone => hstep (htrace.trans hnone)⟩

/-- Two words and an odd byte, in three pieces, are loaded to the last five bytes of memory, and the
first word is executed. One byte further they do not fit. Nothing fits at the end of memory, and is
refused past it. A source that breaks off after its first byte is refused wherever it goes. -/
theorem program_loading_at_end :
    let source : Source := ⟨[.ok [0x60, 0x05], .ok [0x12], .ok [0x34, 0x99], .ok [], .ok [0xFF]]⟩
    let torn : Source := ⟨[.ok [0x60], .error (.device "gone"), .ok [0x05]]⟩
    let started (entryPoint : UInt16) : Console ScriptedKeypad NoPanel Mute :=
      start { entryPoint } ⟨[]⟩ NoPanel.mk Mute.mk (RandomSource.seeded 0) none
    ((started 0xFFB).loadProgram source).2.step.2.machine.register 0 = 5 ∧
      (started 0xFFC).machine.loadProgram source =
        (.error (.programTooLarge 5 4), (started 0xFFC).machine) ∧
      ((started 0x1000).machine.loadProgram ⟨[]⟩).1 = .ok 0 ∧
      (started 0x1001).machine.loadProgram ⟨[]⟩ =
        (.error (.outOfRange 0x1001 0), (started 0x1001).machine) ∧
      (started 0x1001).machine.loadProgram torn =
        (.error (.io (.device "gone")), (started 0x1001).machine) := by
  intro source torn started
  have hsource : source.Delivers [0x60, 0x05, 0x12, 0x34, 0x99] :=
    ⟨[[0x60, 0x05], [0x12], [0x34, 0x99]], [.ok [], .ok [0xFF]], rfl, by decide, rfl,
      Or.inr ⟨_, rfl⟩⟩
  have hnothing : Source.Delivers ⟨[]⟩ [] := ⟨[], [], rfl, nofun, rfl, Or.inl rfl⟩
  have htorn : torn.Breaks (.device "gone") := ⟨[[0x60]], [.ok [0x05]], rfl, by decide⟩
  obtain ⟨-, hbreaks, hdelivers, -, -, hstarted⟩ :=
    program_loading (κ := ScriptedKeypad) (δ := NoPanel) (σ := Mute)
  have hleft : 4096 - (started 0xFFC).machine.memory.programStart.toNat = 4 := by decide
  refine ⟨?_, ?_, ?_, (hdelivers (started 0x1001).machine ⟨[]⟩ [] hnothing).1 (by decide),
    hbreaks (started 0x1001).machine torn _ htorn⟩
  · obtain ⟨-, -, -, hstep, -⟩ := hstarted { entryPoint := 0xFFB } ⟨[]⟩ NoPanel.mk Mute.mk
      (RandomSource.seeded 0) none source _ 0x6005 hsource (by decide) rfl
    rw [hstep]
    decide +kernel
  · obtain ⟨-, hlong, -⟩ := hdelivers (started 0xFFC).machine source _ hsource
    rw [hleft] at hlong
    exact hlong (by decide) (by decide)
  · obtain ⟨memory, -, hload, -⟩ :=
      (hdelivers (started 0x1000).machine ⟨[]⟩ [] hnothing).2.2 (by decide) (by decide)
    rw [hload]
    rfl

end Console

end Chip8
