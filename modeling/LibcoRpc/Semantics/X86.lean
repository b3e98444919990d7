import LibcoRpc.Std.Memory

/-!
# Straight-line x86-64 code

The registers, the memory and the instruction pointer of a processor, and the few instructions
that a context switch is written with, in the operand order of the AT&T assembler. Flags are
left out: none of the instructions reads them.
-/

namespace LibcoRpc.X86

open LibcoRpc.Std

inductive Reg where
  | rax | rbx | rcx | rdx | rsi | rdi | rbp | rsp
  | r8 | r9 | r10 | r11 | r12 | r13 | r14 | r15
deriving DecidableEq, Repr

structure Cpu where
  regs : Reg → Word
  mem : Memory
  rip : Word

inductive Instr where
  /-- `leaq disp(base), dst`. -/
  | leaq (disp : Word) (base dst : Reg)
  /-- `movq disp(base), dst`. -/
  | loadq (disp : Word) (base dst : Reg)
  /-- `movq src, disp(base)`. -/
  | storeq (src : Reg) (disp : Word) (base : Reg)
  /-- `xorq src, dst`. -/
  | xorq (src dst : Reg)
  /-- `pushq disp(base)`. -/
  | pushq (disp : Word) (base : Reg)
  | ret
deriving DecidableEq, Repr

namespace Cpu

def set (cpu : Cpu) (reg : Reg) (value : Word) : Cpu :=
  { cpu with regs := Function.update cpu.regs reg value }

/-- One instruction. Only `ret` says where to go on. -/
def run (cpu : Cpu) : Instr → Cpu
  | .leaq disp base dst => cpu.set dst (cpu.regs base + disp)
  | .loadq disp base dst => cpu.set dst (loadWord cpu.mem (cpu.regs base + disp))
  | .storeq src disp base =>
      { cpu with mem := storeWord cpu.mem (cpu.regs base + disp) (cpu.regs src) }
  | .xorq src dst => cpu.set dst (cpu.regs dst ^^^ cpu.regs src)
  | .pushq disp base =>
      let value := loadWord cpu.mem (cpu.regs base + disp)
      let lowered := cpu.set .rsp (cpu.regs .rsp - 8)
      { lowered with mem := storeWord cpu.mem (lowered.regs .rsp) value }
  | .ret => { cpu.set .rsp (cpu.regs .rsp + 8) with rip := loadWord cpu.mem (cpu.regs .rsp) }

def exec (cpu : Cpu) (code : List Instr) : Cpu := code.foldl run cpu

theorem exec_append (cpu : Cpu) (first second : List Instr) :
    cpu.exec (first ++ second) = (cpu.exec first).exec second := List.foldl_append

end Cpu

end LibcoRpc.X86
