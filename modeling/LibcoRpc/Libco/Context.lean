import LibcoRpc.Semantics.X86
import Mathlib.Data.List.Nodup

/-!
# The context switch

`coctx_t`, `coctx_swap` and `coctx_make` of libco, for x86-64. A context is an array of
fourteen words in memory. `coctx_swap` fills the one that `rdi` points to from the registers,
then loads the registers from the one that `rsi` points to. It reads its own return address from
the stack it leaves, and pushes the saved one on the stack it goes to, before `ret`.
-/

namespace LibcoRpc.Libco

open LibcoRpc.Std LibcoRpc.X86

/-- `regs` of `coctx_t`. -/
abbrev contextSize : Nat := 112

abbrev kRDI : Nat := 7
abbrev kRSI : Nat := 8
abbrev kRETAddr : Nat := 9
abbrev kRSP : Nat := 13

/-- Where a context keeps the registers, apart from `kRETAddr` and `kRSP`. -/
def slots : List (Nat × Reg) :=
  [(0, .r15), (1, .r14), (2, .r13), (3, .r12), (4, .r9), (5, .r8), (6, .rbp), (kRDI, .rdi),
    (kRSI, .rsi), (10, .rdx), (11, .rcx), (12, .rbx)]

/-- `regs[index]` of the context at an address. -/
def regsAt (memory : Memory) (ctx : Word) (index : Nat) : Word :=
  loadWord memory (ctx + BitVec.ofNat 64 (8 * index))

/-- The first part of `coctx_swap`, up to `xorq %rax, %rax`. -/
def coctxSwapSave : List Instr :=
  [.leaq 0 .rsp .rax,
    .storeq .rax 104 .rdi,
    .storeq .rbx 96 .rdi,
    .storeq .rcx 88 .rdi,
    .storeq .rdx 80 .rdi,
    .loadq 0 .rax .rax,
    .storeq .rax 72 .rdi,
    .storeq .rsi 64 .rdi,
    .storeq .rdi 56 .rdi,
    .storeq .rbp 48 .rdi,
    .storeq .r8 40 .rdi,
    .storeq .r9 32 .rdi,
    .storeq .r12 24 .rdi,
    .storeq .r13 16 .rdi,
    .storeq .r14 8 .rdi,
    .storeq .r15 0 .rdi,
    .xorq .rax .rax]

/-- The second part of `coctx_swap`. -/
def coctxSwapLoad : List Instr :=
  [.loadq 48 .rsi .rbp,
    .loadq 104 .rsi .rsp,
    .loadq 0 .rsi .r15,
    .loadq 8 .rsi .r14,
    .loadq 16 .rsi .r13,
    .loadq 24 .rsi .r12,
    .loadq 32 .rsi .r9,
    .loadq 40 .rsi .r8,
    .loadq 56 .rsi .rdi,
    .loadq 80 .rsi .rdx,
    .loadq 88 .rsi .rcx,
    .loadq 96 .rsi .rbx,
    .leaq 8 .rsp .rsp,
    .pushq 72 .rsi,
    .loadq 64 .rsi .rsi,
    .ret]

def coctxSwap : List Instr := coctxSwapSave ++ coctxSwapLoad

/-! ## The context that is saved -/

/-- A context holds the registers with which `coctx_swap` was called. -/
structure Saved (memory : Memory) (ctx : Word) (entry : Cpu) : Prop where
  regs : ∀ slot ∈ slots, regsAt memory ctx slot.1 = entry.regs slot.2
  ret : regsAt memory ctx kRETAddr = loadWord entry.mem (entry.regs .rsp)
  rsp : regsAt memory ctx kRSP = entry.regs .rsp

/-- Words stored into a context one after the other. -/
def storeRegs (memory : Memory) (ctx : Word) (words : List (Nat × Word)) : Memory :=
  words.foldl
    (fun memory word => storeWord memory (ctx + BitVec.ofNat 64 (8 * word.1)) word.2) memory

section

variable {memory memory' : Memory} {ctx here : Word} {index other : Nat}

/-- A slot of `regs` is in the context. -/
theorem mem_context (below : index < 14)
    (member : here ∈ (⟨ctx + BitVec.ofNat 64 (8 * index), 8⟩ : Region)) :
    here ∈ (⟨ctx, contextSize⟩ : Region) := by
  have small : (here - (ctx + BitVec.ofNat 64 (8 * index))).toNat < 8 := member
  show (here - ctx).toNat < 112
  bv_omega

/-- Slots of `regs` do not overlap. -/
theorem slots_disjoint (below : index < 14) (otherBelow : other < 14) (differ : index ≠ other) :
    Region.Disjoint ⟨ctx + BitVec.ofNat 64 (8 * index), 8⟩
      ⟨ctx + BitVec.ofNat 64 (8 * other), 8⟩ := by
  intro here first second
  rw [Region.mem_iff, Region.offset] at first second
  dsimp only at first second
  bv_omega

/-- What `regs` holds depends on the context only. -/
theorem regsAt_congr (below : index < 14)
    (same : ∀ here ∈ (⟨ctx, contextSize⟩ : Region), memory here = memory' here) :
    regsAt memory ctx index = regsAt memory' ctx index :=
  loadWord_congr fun here member => same here (mem_context below member)

theorem slots_small : ∀ slot ∈ slots, slot.1 < 14 := by decide

/-- A context is kept as long as its bytes are. -/
theorem Saved.congr {entry : Cpu} (saved : Saved memory ctx entry)
    (same : ∀ here ∈ (⟨ctx, contextSize⟩ : Region), memory' here = memory here) :
    Saved memory' ctx entry where
  regs slot member := (regsAt_congr (slots_small slot member) same).trans (saved.regs slot member)
  ret := (regsAt_congr (by decide) same).trans saved.ret
  rsp := (regsAt_congr (by decide) same).trans saved.rsp

/-- Writing registers into a context changes nothing outside of it. -/
theorem storeRegs_of_not_mem {words : List (Nat × Word)} (small : ∀ word ∈ words, word.1 < 14)
    (out : here ∉ (⟨ctx, contextSize⟩ : Region)) :
    storeRegs memory ctx words here = memory here := by
  induction words generalizing memory with
  | nil => rfl
  | cons word rest ih =>
      have below : word.1 < 14 := small word List.mem_cons_self
      calc storeRegs memory ctx (word :: rest) here
          = storeWord memory (ctx + BitVec.ofNat 64 (8 * word.1)) word.2 here :=
            ih fun other member => small other (List.mem_cons_of_mem _ member)
        _ = memory here := storeWord_of_not_mem fun member => out (mem_context below member)

/-- Registers that are not written stay as they are. -/
theorem regsAt_storeRegs_of_not_mem {words : List (Nat × Word)}
    (small : ∀ word ∈ words, word.1 < 14) (below : index < 14)
    (absent : ∀ word ∈ words, word.1 ≠ index) :
    regsAt (storeRegs memory ctx words) ctx index = regsAt memory ctx index := by
  induction words generalizing memory with
  | nil => rfl
  | cons word rest ih =>
      have differ : index ≠ word.1 := (absent word List.mem_cons_self).symm
      have disjoint : Region.Disjoint ⟨ctx + BitVec.ofNat 64 (8 * index), 8⟩
          ⟨ctx + BitVec.ofNat 64 (8 * word.1), 8⟩ :=
        slots_disjoint below (small word List.mem_cons_self) differ
      calc regsAt (storeRegs memory ctx (word :: rest)) ctx index
          = regsAt (storeWord memory (ctx + BitVec.ofNat 64 (8 * word.1)) word.2) ctx index :=
            ih (fun other member => small other (List.mem_cons_of_mem _ member))
              fun other member => absent other (List.mem_cons_of_mem _ member)
        _ = regsAt memory ctx index := loadWord_storeWord_disjoint disjoint

/-- A register that is written once is read back. -/
theorem regsAt_storeRegs {words : List (Nat × Word)} (small : ∀ word ∈ words, word.1 < 14)
    (once : (words.map Prod.fst).Nodup) {word : Nat × Word} (member : word ∈ words) :
    regsAt (storeRegs memory ctx words) ctx word.1 = word.2 := by
  induction words generalizing memory with
  | nil => cases member
  | cons first rest ih =>
      rw [List.map_cons, List.nodup_cons] at once
      have smallRest : ∀ word ∈ rest, word.1 < 14 :=
        fun other member => small other (List.mem_cons_of_mem _ member)
      rcases List.mem_cons.mp member with rfl | later
      · have absent : ∀ other ∈ rest, other.1 ≠ word.1 := fun other member same =>
          once.1 (same ▸ List.mem_map_of_mem member)
        exact (regsAt_storeRegs_of_not_mem smallRest (small word List.mem_cons_self) absent).trans
          (loadWord_storeWord ..)
      · exact ih smallRest once.2 later

end

/-- The words that `coctx_swap` stores before it reads its return address. -/
def firstWords (cpu : Cpu) : List (Nat × Word) :=
  [(13, cpu.regs .rsp), (12, cpu.regs .rbx), (11, cpu.regs .rcx), (10, cpu.regs .rdx)]

/-- The words that `coctx_swap` stores, with the return address that it reads. -/
def savedWords (cpu : Cpu) (ret : Word) : List (Nat × Word) :=
  firstWords cpu ++ [(9, ret), (8, cpu.regs .rsi), (7, cpu.regs .rdi), (6, cpu.regs .rbp),
    (5, cpu.regs .r8), (4, cpu.regs .r9), (3, cpu.regs .r12), (2, cpu.regs .r13),
    (1, cpu.regs .r14), (0, cpu.regs .r15)]

section

variable {cpu : Cpu}

theorem firstWords_small (cpu : Cpu) : ∀ word ∈ firstWords cpu, word.1 < 14 := by
  simp [firstWords]

theorem savedWords_small (cpu : Cpu) (ret : Word) : ∀ word ∈ savedWords cpu ret, word.1 < 14 := by
  simp [savedWords, firstWords]

/-- The first half of `coctx_swap`: the context of the caller is written, and `%rax` is cleared. -/
theorem exec_coctxSwapSave (cpu : Cpu) :
    cpu.exec coctxSwapSave =
      { cpu with
        regs := Function.update cpu.regs .rax 0
        mem := storeRegs cpu.mem (cpu.regs .rdi) (savedWords cpu
          (loadWord (storeRegs cpu.mem (cpu.regs .rdi) (firstWords cpu)) (cpu.regs .rsp))) } := by
  simp only [coctxSwapSave, Cpu.exec, List.foldl, Cpu.run, Cpu.set, Function.update_self,
    savedWords, firstWords, storeRegs, List.cons_append, List.nil_append, ne_eq, reduceCtorEq,
    not_false_eq_true, Function.update_of_ne, BitVec.xor_self, Function.update_idem,
    BitVec.ofNat_eq_ofNat, BitVec.add_zero, Nat.reduceMul]

/-- The first part writes the context and nothing else. -/
theorem exec_coctxSwapSave_mem {here : Word}
    (out : here ∉ (⟨cpu.regs .rdi, contextSize⟩ : Region)) :
    (cpu.exec coctxSwapSave).mem here = cpu.mem here := by
  rw [exec_coctxSwapSave]
  exact storeRegs_of_not_mem (savedWords_small cpu _) out

/-- After the first half the caller is saved. -/
theorem exec_coctxSwapSave_saved
    (apart : Region.Disjoint ⟨cpu.regs .rdi, contextSize⟩ ⟨cpu.regs .rsp, 8⟩) :
    Saved (cpu.exec coctxSwapSave).mem (cpu.regs .rdi) cpu := by
  -- The stores before it leave the return address on the stack alone.
  have isRet : loadWord (storeRegs cpu.mem (cpu.regs .rdi) (firstWords cpu)) (cpu.regs .rsp) =
      loadWord cpu.mem (cpu.regs .rsp) :=
    loadWord_congr fun here member =>
      storeRegs_of_not_mem (firstWords_small cpu) (apart.symm here member)
  rw [exec_coctxSwapSave, isRet]
  have stored : ∀ word ∈ savedWords cpu (loadWord cpu.mem (cpu.regs .rsp)),
      regsAt (storeRegs cpu.mem (cpu.regs .rdi)
        (savedWords cpu (loadWord cpu.mem (cpu.regs .rsp)))) (cpu.regs .rdi) word.1 = word.2 :=
    fun word member => regsAt_storeRegs (savedWords_small cpu _)
      (by simp [savedWords, firstWords]) member
  refine ⟨fun slot member => stored (slot.1, cpu.regs slot.2) ?_, ?_, ?_⟩
  · revert slot
    simp [slots, savedWords, firstWords]
  · exact stored (kRETAddr, loadWord cpu.mem (cpu.regs .rsp)) (by simp [savedWords, firstWords])
  · exact stored (kRSP, cpu.regs .rsp) (by simp [savedWords, firstWords])

end

/-! ## The context that is loaded -/

/-- The registers are those of a context, and control is at its return address. -/
structure Loaded (cpu : Cpu) (memory : Memory) (ctx : Word) : Prop where
  regs : ∀ slot ∈ slots, cpu.regs slot.2 = regsAt memory ctx slot.1
  rip : cpu.rip = regsAt memory ctx kRETAddr
  rsp : cpu.regs .rsp = regsAt memory ctx kRSP + 8
  rax : cpu.regs .rax = 0

/-- A call of `coctx_swap` has come back: all registers that a context keeps are as they
were, the return address is off the stack, and the result is zero. -/
structure Returned (cpu entry : Cpu) : Prop where
  regs : ∀ slot ∈ slots, cpu.regs slot.2 = entry.regs slot.2
  rip : cpu.rip = loadWord entry.mem (entry.regs .rsp)
  rsp : cpu.regs .rsp = entry.regs .rsp + 8
  rax : cpu.regs .rax = 0

/-- Loading what a call of `coctx_swap` has saved makes that call return. -/
theorem Loaded.returned {cpu entry : Cpu} {memory : Memory} {ctx : Word}
    (loaded : Loaded cpu memory ctx) (saved : Saved memory ctx entry) : Returned cpu entry where
  regs slot member := (loaded.regs slot member).trans (saved.regs slot member)
  rip := loaded.rip.trans saved.ret
  rsp := by rw [loaded.rsp, saved.rsp]
  rax := loaded.rax

section

variable {cpu : Cpu}

/-- The second part as one assignment; `word` is the array of the context. -/
theorem exec_coctxSwapLoad (cpu : Cpu) :
    let word := regsAt cpu.mem (cpu.regs .rsi)
    let pushed := storeWord cpu.mem (word kRSP) (word kRETAddr)
    cpu.exec coctxSwapLoad =
      { mem := pushed
        rip := loadWord pushed (word kRSP)
        regs := fun
          | .r15 => word 0
          | .r14 => word 1
          | .r13 => word 2
          | .r12 => word 3
          | .r9 => word 4
          | .r8 => word 5
          | .rbp => word 6
          | .rdi => word kRDI
          | .rsi => regsAt pushed (cpu.regs .rsi) kRSI
          | .rdx => word 10
          | .rcx => word 11
          | .rbx => word 12
          | .rsp => word kRSP + 8
          | .rax => cpu.regs .rax
          | .r10 => cpu.regs .r10
          | .r11 => cpu.regs .r11 } := by
  simp only [coctxSwapLoad, Cpu.exec, List.foldl, Cpu.run, Cpu.set, Function.update_self, ne_eq,
    reduceCtorEq, not_false_eq_true, Function.update_of_ne, BitVec.add_sub_cancel, regsAt,
    BitVec.ofNat_eq_ofNat, Nat.reduceMul, kRSP, kRETAddr, kRSI, kRDI, Cpu.mk.injEq, and_self,
    and_true]
  funext reg
  cases reg <;> simp

/-- The second half of `coctx_swap` loads a context. -/
theorem exec_coctxSwapLoad_loaded (zero : cpu.regs .rax = 0)
    (apart : Region.Disjoint ⟨cpu.regs .rsi, contextSize⟩
      ⟨regsAt cpu.mem (cpu.regs .rsi) kRSP, 8⟩) :
    Loaded (cpu.exec coctxSwapLoad) cpu.mem (cpu.regs .rsi) := by
  -- `rsi` is loaded after the push, which leaves the context alone.
  have rsi : ∀ value, regsAt (storeWord cpu.mem (regsAt cpu.mem (cpu.regs .rsi) kRSP) value)
      (cpu.regs .rsi) kRSI = regsAt cpu.mem (cpu.regs .rsi) kRSI := fun value =>
    regsAt_congr (by decide) fun here member => storeWord_of_not_mem (apart here member)
  rw [exec_coctxSwapLoad]
  exact ⟨by simp [slots, rsi], loadWord_storeWord .., rfl, zero⟩

end

/-! ## The whole of `coctx_swap` -/

theorem exec_coctxSwapSave_rsi (cpu : Cpu) :
    (cpu.exec coctxSwapSave).regs .rsi = cpu.regs .rsi := by
  rw [exec_coctxSwapSave]
  rfl

section

variable {cpu : Cpu}
  (contexts : Region.Disjoint ⟨cpu.regs .rsi, contextSize⟩ ⟨cpu.regs .rdi, contextSize⟩)

include contexts

/-- The first half leaves the other context alone. -/
theorem regsAt_exec_coctxSwapSave {index : Nat} (below : index < 14) :
    regsAt (cpu.exec coctxSwapSave).mem (cpu.regs .rsi) index =
      regsAt cpu.mem (cpu.regs .rsi) index :=
  regsAt_congr below fun here member => exec_coctxSwapSave_mem (contexts here member)

/-- Outside the context that is saved, only the slot of the pushed return address changes. -/
theorem coctxSwap_mem {here : Word} (out : here ∉ (⟨cpu.regs .rdi, contextSize⟩ : Region)) :
    (cpu.exec coctxSwap).mem here =
      storeWord cpu.mem (regsAt cpu.mem (cpu.regs .rsi) kRSP)
        (regsAt cpu.mem (cpu.regs .rsi) kRETAddr) here := by
  rw [coctxSwap, Cpu.exec_append, exec_coctxSwapLoad]
  simp only [exec_coctxSwapSave_rsi, regsAt_exec_coctxSwapSave contexts (show kRSP < 14 by decide),
    regsAt_exec_coctxSwapSave contexts (show kRETAddr < 14 by decide)]
  unfold storeWord
  rw [exec_coctxSwapSave_mem out]

/-- `coctx_swap` loads the context it is given second. -/
theorem coctxSwap_loaded
    (target : Region.Disjoint ⟨cpu.regs .rsi, contextSize⟩
      ⟨regsAt cpu.mem (cpu.regs .rsi) kRSP, 8⟩) :
    Loaded (cpu.exec coctxSwap) cpu.mem (cpu.regs .rsi) := by
  have rax : (cpu.exec coctxSwapSave).regs .rax = 0 := by
    rw [exec_coctxSwapSave]
    rfl
  have loaded : Loaded (cpu.exec coctxSwap) (cpu.exec coctxSwapSave).mem (cpu.regs .rsi) := by
    rw [coctxSwap, Cpu.exec_append, ← exec_coctxSwapSave_rsi]
    refine exec_coctxSwapLoad_loaded rax ?_
    rwa [exec_coctxSwapSave_rsi, regsAt_exec_coctxSwapSave contexts (by decide)]
  have kept : ∀ index < 14, regsAt (cpu.exec coctxSwapSave).mem (cpu.regs .rsi) index =
      regsAt cpu.mem (cpu.regs .rsi) index := fun _ => regsAt_exec_coctxSwapSave contexts
  exact
    { regs := fun slot member => (loaded.regs slot member).trans (kept _ (slots_small slot member))
      rip := loaded.rip.trans (kept _ (by decide))
      rsp := by rw [loaded.rsp, kept _ (by decide)]
      rax := loaded.rax }

/-- `coctx_swap` saves the caller in the context it is given first. -/
theorem coctxSwap_saved
    (own : Region.Disjoint ⟨cpu.regs .rdi, contextSize⟩ ⟨cpu.regs .rsp, 8⟩)
    (target : Region.Disjoint ⟨cpu.regs .rdi, contextSize⟩
      ⟨regsAt cpu.mem (cpu.regs .rsi) kRSP, 8⟩) :
    Saved (cpu.exec coctxSwap).mem (cpu.regs .rdi) cpu := by
  refine (exec_coctxSwapSave_saved own).congr fun here member => ?_
  rw [coctxSwap, Cpu.exec_append, exec_coctxSwapLoad]
  refine storeWord_of_not_mem ?_
  rw [exec_coctxSwapSave_rsi, regsAt_exec_coctxSwapSave contexts (by decide)]
  exact target here member

end

/-! ## A new context -/

/-- `sp` of `coctx_make`: the last sixteen-byte boundary with a word above it. -/
def entrySp (ssSp : Word) (ssSize : Nat) : Word := (ssSp + BitVec.ofNat 64 ssSize - 8) &&& -16

/-- The assignments to `ctx->regs` in `coctx_make`. -/
def entryWords (sp pfn s s1 : Word) : List (Nat × Word) :=
  [(kRSP, sp), (kRETAddr, pfn), (kRDI, s), (kRSI, s1)]

/-- `coctx_make`. -/
def coctxMake (memory : Memory) (ctx ssSp : Word) (ssSize : Nat) (pfn s s1 : Word) : Memory :=
  let sp := entrySp ssSp ssSize
  let zeroed := fill memory ⟨ctx, contextSize⟩ 0
  let returns := storeWord zeroed sp pfn
  storeRegs returns ctx (entryWords sp pfn s s1)

section

variable {memory : Memory} {ctx ssSp pfn s s1 here : Word} {ssSize : Nat}

/-- `coctx_make` aligns the stack pointer to sixteen bytes. -/
theorem entrySp_aligned (ssSp : Word) (ssSize : Nat) : (entrySp ssSp ssSize).toNat % 16 = 0 := by
  have masked : entrySp ssSp ssSize &&& 15 = 0 := by
    rw [entrySp, BitVec.and_assoc]
    exact BitVec.and_zero
  have low := congrArg BitVec.toNat masked
  rw [BitVec.toNat_and] at low
  exact (Nat.and_two_pow_sub_one_eq_mod _ 4).symm.trans low

/-- The slot of the first return address lies in the stack, at its end. -/
theorem entrySp_bounds (large : 24 ≤ ssSize) (small : ssSize < 2 ^ 31) :
    Region.offset ⟨ssSp, ssSize⟩ (entrySp ssSp ssSize) + 8 ≤ ssSize ∧
      ssSize ≤ Region.offset ⟨ssSp, ssSize⟩ (entrySp ssSp ssSize) + 23 := by
  obtain ⟨top, isTop⟩ : ∃ top, ssSp + BitVec.ofNat 64 ssSize - 8 = top := ⟨_, rfl⟩
  have parts : (top &&& -16) + (top &&& 15) = top := by
    have disjoint : (top &&& -16) &&& (top &&& 15) = 0 := by
      have masks : (-16 : Word) &&& 15 = 0 := by decide
      rw [BitVec.and_comm top 15, BitVec.and_assoc, ← BitVec.and_assoc (-16), masks]
      simp
    rw [BitVec.add_eq_or_of_and_eq_zero _ _ disjoint, ← BitVec.and_or_distrib_left]
    exact BitVec.and_allOnes
  have cut : (top &&& 15).toNat < 16 := by
    rw [BitVec.toNat_and]
    exact Nat.lt_succ_of_le Nat.and_le_right
  rw [entrySp, isTop, Region.offset]
  constructor <;> bv_omega

/-- The stack pointer that the first `ret` leaves: a word below a sixteen-byte boundary, at the
end of the stack. -/
theorem entrySp_add_eight (large : 24 ≤ ssSize) (small : ssSize < 2 ^ 31) :
    (entrySp ssSp ssSize + 8).toNat % 16 = 8 ∧
      Region.offset ⟨ssSp, ssSize⟩ (entrySp ssSp ssSize + 8) ≤ ssSize ∧
      ssSize ≤ Region.offset ⟨ssSp, ssSize⟩ (entrySp ssSp ssSize + 8) + 15 := by
  have aligned := entrySp_aligned ssSp ssSize
  have bounds : Region.offset ⟨ssSp, ssSize⟩ (entrySp ssSp ssSize) + 8 ≤ ssSize ∧
      ssSize ≤ Region.offset ⟨ssSp, ssSize⟩ (entrySp ssSp ssSize) + 23 :=
    entrySp_bounds large small
  generalize entrySp ssSp ssSize = sp at aligned bounds
  unfold Region.offset at bounds ⊢
  refine ⟨?_, ?_, ?_⟩ <;> bv_omega

theorem entryWords_small {sp : Word} : ∀ word ∈ entryWords sp pfn s s1, word.1 < 14 := by
  simp [entryWords, kRSP, kRETAddr, kRDI, kRSI]

/-- `coctx_make` writes the context and one word of the stack. -/
theorem coctxMake_of_not_mem (outside : here ∉ (⟨ctx, contextSize⟩ : Region))
    (below : here ∉ (⟨entrySp ssSp ssSize, 8⟩ : Region)) :
    coctxMake memory ctx ssSp ssSize pfn s s1 here = memory here := by
  rw [coctxMake, storeRegs_of_not_mem entryWords_small outside, storeWord_of_not_mem below,
    fill_of_not_mem outside]

/-- What a context made by `coctx_make` holds. -/
structure Made (memory : Memory) (ctx sp pfn s s1 : Word) : Prop where
  rsp : regsAt memory ctx kRSP = sp
  ret : regsAt memory ctx kRETAddr = pfn
  rdi : regsAt memory ctx kRDI = s
  rsi : regsAt memory ctx kRSI = s1
  others : ∀ slot ∈ slots, slot.1 ≠ kRDI → slot.1 ≠ kRSI → regsAt memory ctx slot.1 = 0

/-- What `coctx_make` has made depends on the context only. -/
theorem Made.congr {memory' : Memory} {sp : Word} (made : Made memory ctx sp pfn s s1)
    (same : ∀ here ∈ (⟨ctx, contextSize⟩ : Region), memory' here = memory here) :
    Made memory' ctx sp pfn s s1 where
  rsp := (regsAt_congr (by decide) same).trans made.rsp
  ret := (regsAt_congr (by decide) same).trans made.ret
  rdi := (regsAt_congr (by decide) same).trans made.rdi
  rsi := (regsAt_congr (by decide) same).trans made.rsi
  others slot member notRdi notRsi :=
    (regsAt_congr (slots_small slot member) same).trans (made.others slot member notRdi notRsi)

/-- `coctx_make` makes a context. -/
theorem coctxMake_made
    (apart : Region.Disjoint ⟨ctx, contextSize⟩ ⟨entrySp ssSp ssSize, 8⟩) :
    Made (coctxMake memory ctx ssSp ssSize pfn s s1) ctx (entrySp ssSp ssSize) pfn s s1 := by
  have once : ((entryWords (entrySp ssSp ssSize) pfn s s1).map Prod.fst).Nodup := by
    simp [entryWords, kRSP, kRETAddr, kRDI, kRSI]
  have stored : ∀ word ∈ entryWords (entrySp ssSp ssSize) pfn s s1,
      regsAt (coctxMake memory ctx ssSp ssSize pfn s s1) ctx word.1 = word.2 :=
    fun word => regsAt_storeRegs entryWords_small once
  refine ⟨stored (kRSP, entrySp ssSp ssSize) (.head _), stored (kRETAddr, pfn) (.tail _ (.head _)),
    stored (kRDI, s) (.tail _ (.tail _ (.head _))),
    stored (kRSI, s1) (.tail _ (.tail _ (.tail _ (.head _)))), fun slot member notRdi notRsi => ?_⟩
  have absent : ∀ word ∈ entryWords (entrySp ssSp ssSize) pfn s s1, word.1 ≠ slot.1 := by
    have notRsp : slot.1 ≠ kRSP ∧ slot.1 ≠ kRETAddr := by
      revert slot
      decide
    simp [entryWords, notRsp.1.symm, notRsp.2.symm, Ne.symm notRdi, Ne.symm notRsi]
  have below := slots_small slot member
  rw [coctxMake, regsAt_storeRegs_of_not_mem entryWords_small below absent]
  -- What is left is the memory that was set to zero.
  refine loadWord_zero fun here inside => ?_
  have inContext : here ∈ (⟨ctx, contextSize⟩ : Region) := mem_context below inside
  rw [storeWord_of_not_mem (apart here inContext), fill_of_mem inContext]

end

end LibcoRpc.Libco
