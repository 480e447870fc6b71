import LinuxDeviceDrivers.ByteStore
import LinuxDeviceDrivers.HexText
import LinuxDeviceDrivers.Transition
import Mathlib.Data.List.Forall2

namespace LinuxDeviceDrivers.Rtl8139Report

open ByteStore HexText Transition

structure Register where
  offset : Nat
  bytes : Nat
  deriving DecidableEq

-- What readb, readw and readl see of the adapter. No call reads a register
-- twice, so one image stands for all the moments of a call.
def Register.read (io : Nat → UInt8) (register : Register) : Nat := littleEndian (load io register.offset register.bytes)

def readb (offset : Nat) : Piece Register := .hex ⟨offset,1⟩ 2
def readw (offset : Nat) : Piece Register := .hex ⟨offset,2⟩ 4
def readl (offset : Nat) : Piece Register := .hex ⟨offset,4⟩ 8

def legend : String := "RealTek-8139 Network Controller register-values"

def macByte (i : Nat) : List (Piece Register) := [readb i,.text (if i < 5 then ":" else " ")]

-- One list a sprintf, in the order of the source.
def report : List (List (Piece Register)) :=
  [[.text "\n\n ",.text "             ",.text " ",.text legend,.text " \n"],
   [.text "\n      "],
   [.text " CR=",readb 0x37,.text "   "],
   [.text " TCR=",readl 0x40,.text "  "],
   [.text " RCR=",readl 0x44,.text "  "],
   [.text "   MAC="]] ++
  (List.range 6).flatMap (fun i => (macByte i).map fun piece => [piece]) ++
  [[.text "\n"],
   [.text "\n      "],
   [.text "  TSD0=",readl 0x10,.text " "],
   [.text "  TSD1=",readl 0x14,.text " "],
   [.text "  TSD2=",readl 0x18,.text " "],
   [.text "  TSD3=",readl 0x1C,.text " "],
   [.text "\n      "],
   [.text " TSAD0=",readl 0x20,.text " "],
   [.text " TSAD1=",readl 0x24,.text " "],
   [.text " TSAD2=",readl 0x28,.text " "],
   [.text " TSAD3=",readl 0x2C,.text " "],
   [.text "\n"],
   [.text "\n      "],
   [.text " RBSTART=",readl 0x30,.text " "],
   [.text " CAPR=",readw 0x38,.text " "],
   [.text " CABR=",readw 0x3A,.text " "],
   [.text "   "],
   [.text " ERBCR=",readw 0x34,.text " "],
   [.text " ERSR=",readb 0x36,.text " "],
   [.text "\n"],
   [.text "\n      "],
   [.text " IMR=",readw 0x3C,.text "  "],
   [.text " MULINT=",readw 0x5C,.text " "],
   [.text "   TSAD=",readw 0x60,.text "   "],
   [.text " REC=",readb 0x72,.text " "],
   [.text " DIS=",readb 0x6C,.text " "],
   [.text " FCSC=",readb 0x6E,.text " "],
   [.text "\n"],
   [.text "\n\n"]]

def pieces : List (Piece Register) := report.flatten

def registers : List Register := pieces.filterMap Piece.key

def reportText (io : Nat → UInt8) : List Char := HexText.render (Register.read io) pieces

abbrev nul : Char := '\x00'

structure Printing where
  memory : Nat → Char
  bufLen : Nat

-- The buffer is the reading process's own, written without a check; `len` is
-- never looked at.
def sprintf (io : Nat → UInt8) (buf : Nat) (p : Printing) (line : List (Piece Register)) : Printing :=
  let text := HexText.render (Register.read io) line
  {memory := store p.memory (buf+p.bufLen) (text ++ [nul]),bufLen := p.bufLen+text.length}

def prints (io : Nat → UInt8) (buf : Nat) (memory : Nat → Char) : Printing := report.foldl (sprintf io buf) ⟨memory,0⟩

-- One read of /proc/8139regs: where the process wants the text, what the
-- adapter holds, and how far copy_to_user gets before the page faults.
structure Call where
  buf : Nat
  len : Nat
  io : Nat → UInt8
  reachable : Nat

structure State where
  eof : Bool := false
  memory : Nat → Char
  returned : Option Int := none

def sbuf : List Char := List.replicate 512 nul

def strlen (memory : Nat → Char) (buf bound : Nat) : Nat := ((load memory buf bound).takeWhile (· ≠ nul)).length

def readProc (s : State) (c : Call) : State :=
  if s.eof then {s with eof := false,returned := some 0}
  else
    let p := prints c.io c.buf s.memory
    let memory := store p.memory c.buf (sbuf.take (min c.reachable p.bufLen))
    if c.reachable < p.bufLen then {eof := true,memory := memory,returned := some (-14)}
    else {eof := true,memory := memory,returned := some (strlen memory c.buf (p.bufLen+1))}

theorem reportText_length (io : Nat → UInt8) : (reportText io).length = 427 := by
  rw [reportText,HexText.render_length]
  rfl

theorem sprintf_sprintf (io : Nat → UInt8) (buf : Nat) (p : Printing) (first second : List (Piece Register)) :
    sprintf io buf (sprintf io buf p first) second = sprintf io buf p (first ++ second) := by
  have twice := store_over (store p.memory (buf+p.bufLen) (HexText.render (Register.read io) first))
    (buf+p.bufLen+(HexText.render (Register.read io) first).length) [nul] (HexText.render (Register.read io) second ++ [nul])
  have gone : [nul].drop (HexText.render (Register.read io) second ++ [nul]).length = [] := by
    rw [List.drop_eq_nil_iff]
    simp
  rw [gone,List.append_nil,store_append,store_append] at twice
  simp only [sprintf,HexText.render_append,List.length_append,List.append_assoc,← Nat.add_assoc]
  rw [twice]

theorem foldl_sprintf {lines : List (List (Piece Register))} (some : lines ≠ []) (io : Nat → UInt8) (buf : Nat) (p : Printing) :
    lines.foldl (sprintf io buf) p = sprintf io buf p lines.flatten := by
  induction lines generalizing p with
  | nil => exact absurd rfl some
  | cons line lines ih =>
      cases lines with
      | nil => simp
      | cons next rest =>
          rw [List.foldl_cons,ih (List.cons_ne_nil _ _),sprintf_sprintf]
          rfl

theorem prints_eq (io : Nat → UInt8) (buf : Nat) (memory : Nat → Char) :
    prints io buf memory = ⟨store memory buf (reportText io ++ [nul]),427⟩ := by
  have lines : report ≠ [] := List.ne_nil_of_length_pos (by decide)
  have length := reportText_length io
  rw [reportText,pieces] at length
  rw [prints,foldl_sprintf lines,sprintf,length,reportText,pieces]
  rfl

theorem pieces_fit (io : Nat → UInt8) : ∀ piece ∈ pieces,piece.Fits (Register.read io) := by
  have widths : ∀ piece ∈ pieces,(match piece with
    | .text _ => true
    | .hex register width => width = 2*register.bytes : Bool) := by decide
  intro piece member
  have wide := widths piece member
  cases piece with
  | text letters => trivial
  | hex register width =>
      have bound := littleEndian_lt (load io register.offset register.bytes)
      have two : width = 2*register.bytes := by simpa using wide
      rw [load_length] at bound
      rw [two]
      change Register.read io register < 16^(2*register.bytes)
      rw [Nat.pow_mul]
      exact bound

theorem prints_read_back (io : Nat → UInt8) (buf : Nat) (memory : Nat → Char) :
    (prints io buf memory).bufLen ≤ sbuf.length ∧
    parse pieces (load (prints io buf memory).memory buf (prints io buf memory).bufLen) =
      some (registers.map fun register => (register,register.read io),[]) ∧
    (prints io buf memory).memory (buf+(prints io buf memory).bufLen) = nul ∧
    ∀ address,address < buf ∨ buf+(prints io buf memory).bufLen < address →
      (prints io buf memory).memory address = memory address := by
  have length := reportText_length io
  have whole : (reportText io ++ [nul]).length = 428 := by simp [length]
  rw [prints_eq]
  dsimp only
  refine ⟨by rw [sbuf,List.length_replicate]; omega,?_,?_,?_⟩
  · have all : load (store memory buf (reportText io ++ [nul])) buf (reportText io ++ [nul]).length = reportText io ++ [nul] :=
      load_store_same
    have written : (load (store memory buf (reportText io ++ [nul])) buf 428).take 427 =
        load (store memory buf (reportText io ++ [nul])) buf 427 := load_take (by omega)
    rw [whole] at all
    rw [all,List.take_left' length] at written
    have back := parse_render (pieces_fit io) []
    rw [List.append_nil] at back
    rw [← written]
    exact back
  · rw [store_cell,List.getElem?_append_right (by omega),length]
    rfl
  · intro address outside
    refine store_outside ?_
    rw [whole]
    omega

theorem readProc_prints {s : State} {c : Call} (fresh : s.eof = false) :
    readProc s c = {
      eof := true
      memory := store s.memory c.buf (List.replicate (min c.reachable 427) nul ++ (reportText c.io ++ [nul]).drop (min c.reachable 427))
      returned := some (if c.reachable < 427 then -14 else 0)} := by
  have zeros : sbuf.take (min c.reachable 427) = List.replicate (min c.reachable 427) nul := by
    rw [sbuf,List.take_replicate]
    congr 1
    omega
  have twice := store_over s.memory c.buf (reportText c.io ++ [nul]) (List.replicate (min c.reachable 427) nul)
  rw [List.length_replicate] at twice
  rw [readProc,if_neg (by simp [fresh]),prints_eq]
  dsimp only
  rw [zeros,twice]
  split
  · rfl
  · rename_i whole
    have covered : min c.reachable 427 = 427 := by omega
    have blank : strlen (store s.memory c.buf (List.replicate 427 nul ++ (reportText c.io ++ [nul]).drop 427)) c.buf (427+1) = 0 := by
      have first : store s.memory c.buf (List.replicate 427 nul ++ (reportText c.io ++ [nul]).drop 427) (c.buf+0) = nul := by
        rw [store_cell]
        rfl
      rw [strlen,Nat.add_comm 427 1,load_add,load]
      simp only [List.range_one,List.map_cons,List.map_nil,first]
      rfl
    rw [covered,blank]
    rfl

theorem reportText_split (io : Nat → UInt8) : ∃ front : List Char,front.length = 421 ∧
    reportText io = front ++ digits 2 (Register.read io ⟨0x6E,1⟩) ++ [' ','\n','\n','\n'] := by
  refine ⟨HexText.render (Register.read io) (pieces.take 91),?_,?_⟩
  · rw [HexText.render_length]
    rfl
  · have last : HexText.render (Register.read io) (pieces.drop 91) =
        digits 2 (Register.read io ⟨0x6E,1⟩) ++ [' ','\n','\n','\n'] := rfl
    rw [List.append_assoc,← last,← HexText.render_append,List.take_append_drop]
    rfl

theorem reportText_last (io : Nat → UInt8) : (reportText io)[422]? = (digits 2 (Register.read io ⟨0x6E,1⟩))[1]? := by
  obtain ⟨front,length,text⟩ := reportText_split io
  rw [text,List.append_assoc,List.getElem?_append_right (by omega),length,List.getElem?_append_left (by rw [digits_length]; omega)]

section Blanks
variable {text shown rest : List Char} {count : Nat}

theorem blanked_get (length : text.length = 427) (short : count ≤ 422) :
    (List.replicate count nul ++ (text ++ [nul]).drop count)[422]? = text[422]? := by
  have place : count+(422-count) = 422 := by omega
  rw [List.getElem?_append_right (by rw [List.length_replicate]; omega),List.length_replicate,List.getElem?_drop,place,
    List.getElem?_append_left (by omega)]

theorem blanked_rest (length : shown.length = 423) (far : 423 ≤ count) :
    (shown ++ rest ++ [nul]).drop count = (rest ++ [nul]).drop (count-423) := by
  rw [List.append_assoc,List.drop_append,List.drop_eq_nil_of_le (by omega),length,List.nil_append]

end Blanks

def Call.holding (io : Nat → UInt8) (c : Call) : Call := {c with io := io}

theorem registers_hidden (s : State) (c : Call) :
    (∀ io,readProc s (c.holding io) = readProc s c) ↔ s.eof ∨ 423 ≤ c.reachable := by
  cases fresh : s.eof with
  | true => simp [readProc,fresh]
  | false =>
      constructor
      · intro same
        by_contra short
        have low : c.reachable < 423 := by simpa using short
        have cell : ∀ io,(readProc s (c.holding io)).memory (c.buf+422) = (reportText io)[422]?.getD (s.memory (c.buf+422)) := by
          intro io
          rw [readProc_prints fresh]
          dsimp only [Call.holding]
          rw [store_cell,blanked_get (reportText_length io) (by omega)]
        have zeros : (reportText fun _ => 0)[422]? = some '0' := reportText_last _
        have ones : (reportText fun _ => 255)[422]? = some 'F' := reportText_last _
        have first := cell fun _ => 0
        have second := cell fun _ => 255
        rw [same,zeros] at first
        rw [same,ones] at second
        exact absurd (show '0' = 'F' from first.symm.trans second) (by decide)
      · rintro (eof | far) io
        · cases eof
        · have rest : ∀ io,(reportText io ++ [nul]).drop (min c.reachable 427) =
              ([' ','\n','\n','\n'] ++ [nul]).drop (min c.reachable 427-423) := by
            intro io
            obtain ⟨front,length,text⟩ := reportText_split io
            rw [text,blanked_rest (by rw [List.length_append,digits_length,length]) (by omega)]
          rw [readProc_prints fresh,readProc_prints fresh]
          simp only [Call.holding,rest]
          rfl

def reads : Machine State Call where
  Allowed _ _ := True
  apply := readProc

def views : State → List Call → List State
  | _,[] => []
  | s,c :: rest => readProc s c :: views (readProc s c) rest

def AskedAlike (c other : Call) : Prop := other = c.holding other.io

-- Over any sequence of reads, the process sees the same whatever the adapter
-- holds exactly when no page faults before the last register is blanked.
theorem adapter_never_seen_iff (s : State) (calls : List Call) :
    (∀ others,List.Forall₂ AskedAlike calls others → views s others = views s calls) ↔
      reads.Along (fun s c => s.eof ∨ 423 ≤ c.reachable) s calls := by
  induction calls generalizing s with
  | nil =>
      refine iff_of_true ?_ trivial
      intro others alike
      cases alike
      rfl
  | cons c rest ih =>
      have unchanged : ∀ calls : List Call,List.Forall₂ AskedAlike calls calls := fun calls =>
        List.forall₂_same.mpr fun _ _ => rfl
      constructor
      · intro same
        refine ⟨(registers_hidden s c).mp ?_,(ih (readProc s c)).mp ?_⟩
        · intro io
          have first := same (c.holding io :: rest) (.cons rfl (unchanged rest))
          exact (List.cons.inj first).1
        · intro others alike
          have later := same (c :: others) (.cons rfl alike)
          exact (List.cons.inj later).2
      · rintro ⟨now,later⟩ others alike
        cases alike with
        | @cons _ other _ others first alike =>
            have hidden := (registers_hidden s c).mpr now other.io
            rw [views,views,first,hidden,(ih (readProc s c)).mpr later others alike]

end LinuxDeviceDrivers.Rtl8139Report
