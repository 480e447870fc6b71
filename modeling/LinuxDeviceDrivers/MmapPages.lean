import LinuxDeviceDrivers.Mmaper

namespace LinuxDeviceDrivers.MmapPages
open PageMapping Mmaper

structure Call where
  start : Nat
  pfn : Nat
  size : Nat
  deriving DecidableEq

structure Run where
  calls : List Call
  ret : Int
  mapping : Mapping

def remapPages (k : Kernel) (errno : Nat → Nat) : Nat → Nat → Int → Nat → Nat → Mapping → Option Run
  | 0,_,_,_,_,_ => none
  | fuel+1,n,length,start,vmallocAreaPtr,mapping =>
      if length > 0 then
        let call : Call := ⟨start,k.vmallocToPfn vmallocAreaPtr,pageSize⟩
        let (ret,mapping) := remapPfnRange (errno n) call.start call.pfn call.size mapping
        if ret < 0 then some ⟨[call],ret,mapping⟩
        else
          (remapPages k errno fuel (n+1) (length-pageSize) (start+pageSize) (vmallocAreaPtr+pageSize) mapping).map
            fun run => {run with calls := call :: run.calls}
      else some ⟨[],0,mapping⟩

def mmapVmem (k : Kernel) (errno : Nat → Nat) (vma : Vma) : Option Run :=
  if len*pageSize < vma.length then some ⟨[],eio,unmapped⟩
  else remapPages k errno (vma.length/pageSize+1) 0 vma.length vma.vmStart k.vmallocPtr unmapped

def pageCall (k : Kernel) (start vmallocAreaPtr i : Nat) : Call :=
  ⟨start+i*pageSize,k.vmallocToPfn (vmallocAreaPtr+i*pageSize),pageSize⟩

def StopsAt (errno : Nat → Nat) (n : Nat) (run : Run) : Prop :=
  ∃ last,run.calls.length = last+1 ∧ (∀ i < last,errno (n+i) = 0) ∧ errno (n+last) ≠ 0 ∧ run.ret = -errno (n+last)

def Completes (errno : Nat → Nat) (n : Nat) (length : Int) (run : Run) : Prop :=
  run.ret = 0 ∧ (∀ i < run.calls.length,errno (n+i) = 0) ∧ length ≤ run.calls.length*pageSize

-- The three cursors move together: a call is made as long as bytes are left.
structure Steps (k : Kernel) (errno : Nat → Nat) (n : Nat) (length : Int) (start vmallocAreaPtr : Nat) (run : Run) :
    Prop where
  calls : run.calls = (List.range run.calls.length).map (pageCall k start vmallocAreaPtr)
  wanted : ∀ i < run.calls.length,(i*pageSize : Int) < length
  ends : StopsAt errno n run ∨ Completes errno n length run

section Loop
variable {k : Kernel} {errno : Nat → Nat} {length : Int} {n start vmallocAreaPtr : Nat} {mapping : Mapping} {run : Run}

theorem remapPages_mapVmem (fuel n : Nat) (length : Int) (start vmallocAreaPtr : Nat) (mapping : Mapping) :
    (remapPages k errno fuel n length start vmallocAreaPtr mapping).map (fun run => (run.ret,run.mapping)) =
      mapVmem k errno fuel n length start vmallocAreaPtr mapping := by
  induction fuel generalizing n length start vmallocAreaPtr mapping with
  | zero => rfl
  | succ fuel ih =>
      simp only [remapPages,mapVmem]
      split
      · split
        · rfl
        · rw [← ih,Option.map_map]
          rfl
      · rfl

theorem pageCall_succ (k : Kernel) (start vmallocAreaPtr i : Nat) :
    pageCall k (start+pageSize) (vmallocAreaPtr+pageSize) i = pageCall k start vmallocAreaPtr (i+1) := by
  simp only [pageCall,Nat.succ_mul,Nat.add_assoc,Nat.add_comm pageSize]

theorem Steps.cons (step : errno n = 0) (more : length > 0)
    (rest : Steps k errno (n+1) (length-pageSize) (start+pageSize) (vmallocAreaPtr+pageSize) run) :
    Steps k errno n length start vmallocAreaPtr {run with calls := pageCall k start vmallocAreaPtr 0 :: run.calls} := by
  refine ⟨?_,?_,?_⟩
  · rw [List.length_cons,List.range_succ_eq_map,List.map_cons,List.map_map]
    have later : run.calls = (List.range run.calls.length).map (pageCall k start vmallocAreaPtr ∘ Nat.succ) := by
      refine rest.calls.trans (List.map_congr_left fun i _ => ?_)
      exact pageCall_succ k start vmallocAreaPtr i
    rw [← later]
  · intro i inside
    cases i with
    | zero => simpa using more
    | succ i =>
        have wanted := rest.wanted i (Nat.lt_of_succ_lt_succ inside)
        simp only [pageSize] at *
        omega
  · have shift : ∀ i,n+1+i = n+(i+1) := fun i => Nat.succ_add_eq_add_succ n i
    rcases rest.ends with ⟨last,count,clear,fails,ret⟩ | ⟨ret,clear,short⟩
    · refine .inl ⟨last+1,congrArg Nat.succ count,?_,shift last ▸ fails,shift last ▸ ret⟩
      intro i before
      cases i with
      | zero => exact step
      | succ i => exact shift i ▸ clear i (Nat.lt_of_succ_lt_succ before)
    · refine .inr ⟨ret,?_,?_⟩
      · intro i before
        cases i with
        | zero => exact step
        | succ i => exact shift i ▸ clear i (Nat.lt_of_succ_lt_succ before)
      · simp only [List.length_cons,pageSize] at *
        omega

theorem remapPages_steps (fuel : Nat)
    (returned : remapPages k errno fuel n length start vmallocAreaPtr mapping = some run) :
    Steps k errno n length start vmallocAreaPtr run := by
  induction fuel generalizing n length start vmallocAreaPtr mapping run with
  | zero => cases returned
  | succ fuel ih =>
      have first : pageCall k start vmallocAreaPtr 0 = ⟨start,k.vmallocToPfn vmallocAreaPtr,pageSize⟩ := by
        simp [pageCall]
      simp only [remapPages,remapPfnRange] at returned
      split at returned
      · rename_i more
        split at returned
        · rename_i negative
          cases returned
          refine ⟨by rw [← first]; rfl,?_,.inl ⟨0,rfl,?_,?_,rfl⟩⟩
          · intro i inside
            obtain rfl := Nat.lt_one_iff.mp inside
            simpa using more
          · exact fun i none => absurd none (Nat.not_lt_zero i)
          · rw [Nat.add_zero]
            omega
        · rename_i succeeds
          obtain ⟨rest,later,rfl⟩ := Option.map_eq_some_iff.mp returned
          rw [← first]
          exact (ih later).cons (by omega) more
      · rename_i done
        cases returned
        refine ⟨rfl,fun i none => absurd none (Nat.not_lt_zero i),.inr ⟨rfl,?_,?_⟩⟩
        · exact fun i none => absurd none (Nat.not_lt_zero i)
        · simpa using done

end Loop

-- The whole call. `single` compares it with one remap_pfn_range of a buffer that
-- begins at the same frame.
structure PageByPage (k : Kernel) (errno : Nat → Nat) (vma : Vma) (run : Run) : Prop where
  calls : run.calls = (List.range run.calls.length).map (pageCall k vma.vmStart k.vmallocPtr)
  succeeds : run.ret = 0 ↔ ∀ i < vma.pages,errno i = 0
  whole : run.ret = 0 → run.calls.length = vma.pages ∧ run.mapping = mapPages vma.page vma.pages (frames k 1)
  stops : run.ret ≠ 0 → ∃ failing < vma.pages,(∀ i < failing,errno i = 0) ∧ errno failing ≠ 0 ∧
    run.ret = -errno failing ∧ run.calls.length = failing+1 ∧ run.mapping = mapPages vma.page failing (frames k 1)
  single : run.ret = 0 → (∀ i < vma.pages,frames k 1 i = frames k 1 0+i) →
    ∀ other : Kernel,other.virtToPhys (kmallocArea other)/pageSize = frames k 1 0 →
      Mmaper.mmapKmalloc other (fun _ => 0) vma = (0,run.mapping)

section Whole
variable {k : Kernel} {errno : Nat → Nat} {vma : Vma} {run : Run}

theorem mmapVmem_mapping (k : Kernel) (errno : Nat → Nat) (vma : Vma) :
    (mmapVmem k errno vma).map (fun run => (run.ret,run.mapping)) = Mmaper.mmapVmem k errno vma := by
  unfold mmapVmem Mmaper.mmapVmem
  split
  · rfl
  · exact remapPages_mapVmem _ _ _ _ _ _

theorem mapPages_consecutive (consecutive : ∀ i < count,table i = table 0+i) (page : Nat) :
    mapPages page count table = mapRange page (table 0) count unmapped := by
  rw [mapRange_unmapped]
  funext other
  simp only [mapPages]
  split
  · rename_i inside
    rw [consecutive _ (by omega)]
  · rfl

theorem steps_outcome (steps : Steps k errno 0 vma.length vma.vmStart k.vmallocPtr run)
    (outcome : Outcome k errno 1 vma calls run.ret run.mapping) :
    (run.ret = 0 → run.calls.length = vma.pages ∧ calls = vma.pages) ∧
      (run.ret ≠ 0 → run.ret = -errno calls ∧ run.calls.length = calls+1 ∧ calls < vma.pages) := by
  have each : remaps 1 vma = vma.pages := rfl
  have length := vma.length_eq
  have returns := outcome.returns
  rw [each] at returns
  constructor
  · intro done
    refine ⟨?_,returns.mp done⟩
    rcases steps.ends with ⟨last,_,_,fails,ret⟩ | ⟨_,_,short⟩
    · omega
    · have enough : vma.pages ≤ run.calls.length := by
        rw [length] at short
        simp only [pageSize] at short
        omega
      have wanted := steps.wanted (run.calls.length-1)
      have positive := vma.pages_pos
      rw [length] at wanted
      simp only [pageSize] at wanted
      omega
  · intro failed
    have bounded := outcome.bounded
    rw [each] at bounded
    have early : calls < vma.pages := by
      have different := mt returns.mpr failed
      omega
    rcases steps.ends with ⟨last,count,clear,fails,ret⟩ | ⟨done,_,_⟩
    · simp only [Nat.zero_add] at clear fails ret
      have same : last = calls := by
        rcases Nat.lt_trichotomy last calls with before | same | after
        · exact absurd (outcome.clear last before) fails
        · exact same
        · exact absurd (clear calls after) (outcome.failed (each ▸ early))
      subst same
      exact ⟨ret,count,early⟩
    · exact absurd done failed

theorem outcome_pages (steps : Steps k errno 0 vma.length vma.vmStart k.vmallocPtr run) (inside : vma.length ≤ len)
    (outcome : Outcome k errno 1 vma calls run.ret run.mapping) : PageByPage k errno vma run := by
  have ⟨done,failed⟩ := steps_outcome steps outcome
  have each : remaps 1 vma = vma.pages := rfl
  have mapping : run.mapping = mapPages vma.page calls (frames k 1) := by
    have maps := outcome.maps
    rwa [each,Nat.div_self vma.pages_pos,Nat.mul_one] at maps
  refine ⟨steps.calls,?_,?_,?_,?_⟩
  · constructor
    · intro success i before
      exact outcome.clear i ((done success).2 ▸ before)
    · intro clear
      by_contra fails
      have early := (failed fails).2.2
      exact outcome.failed (each ▸ early) (clear calls early)
  · intro success
    exact ⟨(done success).1,(done success).2 ▸ mapping⟩
  · intro fails
    obtain ⟨ret,count,early⟩ := failed fails
    exact ⟨calls,early,outcome.clear,outcome.failed (each ▸ early),ret,count,mapping⟩
  · intro success consecutive other start
    have admitted : ¬ len*pageSize < vma.length := by
      simp only [len,pageSize] at *
      omega
    rw [mapping,(done success).2,mapPages_consecutive consecutive]
    simp only [mmapKmalloc,if_neg admitted,remapPfnRange,start]
    rfl

end Whole

theorem mmap_vmem_pages (k : Kernel) (errno : Nat → Nat) (vma : Vma) (inside : vma.length ≤ len) :
    ∃ run,mmapVmem k errno vma = some run ∧ PageByPage k errno vma run := by
  have admitted : ¬ len*pageSize < vma.length := by
    simp only [len,pageSize] at *
    omega
  obtain ⟨calls,ret,mapping,returned,outcome⟩ := mmapprMmap_outcome k errno 1 vma admitted
  have projected : (mmapVmem k errno vma).map (fun run => (run.ret,run.mapping)) = some (ret,mapping) :=
    (mmapVmem_mapping k errno vma).trans returned
  obtain ⟨run,whole,same⟩ := Option.map_eq_some_iff.mp projected
  cases same
  have loop := whole
  rw [mmapVmem,if_neg admitted] at loop
  exact ⟨run,whole,outcome_pages (remapPages_steps _ loop) inside outcome⟩

def threePages : Vma := ⟨0x200000,0x203000,0,by decide,by decide,by decide⟩
def secondFails (call : Nat) : Nat := if call = 1 then 12 else 0

theorem mmap_vmem_second_fails :
    ∃ run,mmapVmem flatKernel secondFails threePages = some run ∧ PageByPage flatKernel secondFails threePages run :=
  mmap_vmem_pages flatKernel secondFails threePages (by decide)

end LinuxDeviceDrivers.MmapPages
