import Mathlib.Data.List.Basic
import Mathlib.Tactic.IntervalCases

namespace LinuxDeviceDrivers.HexText

universe u

def digit (n : Nat) : Char := if n < 10 then Char.ofNat (48+n) else Char.ofNat (55+n)

def digitValue (letter : Char) : Option Nat :=
  if 48 ≤ letter.toNat ∧ letter.toNat ≤ 57 then some (letter.toNat-48)
  else if 65 ≤ letter.toNat ∧ letter.toNat ≤ 70 then some (letter.toNat-55)
  else none

def digits : Nat → Nat → List Char
  | 0,_ => []
  | width+1,n => digits width (n/16) ++ [digit (n%16)]

def readDigits (line : List Char) : Option Nat := line.foldlM (fun high letter => (digitValue letter).map (16*high+·)) 0

@[simp] theorem digits_length (width n : Nat) : (digits width n).length = width := by
  induction width generalizing n with
  | zero => rfl
  | succ width ih => simp [digits,ih]

theorem digitValue_digit (small : n < 16) : digitValue (digit n) = some n := by
  interval_cases n <;> rfl

theorem readDigits_concat (line : List Char) (letter : Char) :
    readDigits (line ++ [letter]) = (readDigits line).bind fun high => (digitValue letter).map (16*high+·) := by
  rw [readDigits,List.foldlM_append]
  cases first : line.foldlM (fun high letter => (digitValue letter).map (16*high+·)) 0 with
  | none => simp [readDigits,first]
  | some high => simp [readDigits,first]

theorem readDigits_digits (width n : Nat) : readDigits (digits width n) = some (n%16^width) := by
  induction width generalizing n with
  | zero => simp [digits,readDigits,Nat.mod_one]
  | succ width ih =>
      have split : n%16^(width+1) = 16*(n/16%16^width)+n%16 := by
        rw [Nat.pow_succ',Nat.mod_mul]
        omega
      rw [digits,readDigits_concat,ih,digitValue_digit (Nat.mod_lt n (by decide)),split]
      rfl

-- A line of text as a list of format strings prints it: letters that stand for
-- themselves, and numbers in a fixed number of digits.
inductive Piece (κ : Type u) where
  | text (letters : String)
  | hex (key : κ) (width : Nat)
  deriving DecidableEq

namespace Piece
variable {κ : Type u}

def render (value : κ → Nat) : Piece κ → List Char
  | text letters => letters.toList
  | hex key width => digits width (value key)

def width : Piece κ → Nat
  | text letters => letters.toList.length
  | hex _ width => width

def key : Piece κ → Option κ
  | text _ => none
  | hex key _ => some key

def Fits (value : κ → Nat) : Piece κ → Prop
  | text _ => True
  | hex key width => value key < 16^width

@[simp] theorem render_length (value : κ → Nat) (piece : Piece κ) : (piece.render value).length = piece.width := by
  cases piece with
  | text letters => rfl
  | hex key width => exact digits_length width _

end Piece

section Lines
variable {κ : Type u} {value : κ → Nat}

def render (value : κ → Nat) (pieces : List (Piece κ)) : List Char := pieces.flatMap (Piece.render value)

def width (pieces : List (Piece κ)) : Nat := (pieces.map Piece.width).sum

def parse : List (Piece κ) → List Char → Option (List (κ × Nat) × List Char)
  | [],line => some ([],line)
  | .text letters :: pieces,line =>
      if letters.toList.isPrefixOf line then parse pieces (line.drop letters.toList.length) else none
  | .hex key width :: pieces,line =>
      (readDigits (line.take width)).bind fun number =>
        (parse pieces (line.drop width)).map fun (numbers,rest) => ((key,number) :: numbers,rest)

@[simp] theorem render_cons (value : κ → Nat) (piece : Piece κ) (pieces : List (Piece κ)) :
    render value (piece :: pieces) = piece.render value ++ render value pieces := rfl

@[simp] theorem render_append (value : κ → Nat) (first second : List (Piece κ)) :
    render value (first ++ second) = render value first ++ render value second := List.flatMap_append

@[simp] theorem render_length (value : κ → Nat) (pieces : List (Piece κ)) : (render value pieces).length = width pieces := by
  simp [render,width,List.length_flatMap]

theorem parse_render {pieces : List (Piece κ)} (fits : ∀ piece ∈ pieces,piece.Fits value) (suffix : List Char) :
    parse pieces (render value pieces ++ suffix) = some ((pieces.filterMap Piece.key).map fun key => (key,value key),suffix) := by
  induction pieces with
  | nil => rfl
  | cons piece pieces ih =>
      have later := ih fun other member => fits other (List.mem_cons_of_mem _ member)
      have here := fits piece List.mem_cons_self
      rw [render_cons,List.append_assoc]
      cases piece with
      | text letters => simpa [parse,Piece.render,List.filterMap_cons,Piece.key] using later
      | hex key width =>
          have number : readDigits (digits width (value key)) = some (value key) := by
            rw [readDigits_digits,Nat.mod_eq_of_lt here]
          simp [parse,Piece.render,Piece.key,List.take_left',List.drop_left',number,later]

end Lines

end LinuxDeviceDrivers.HexText
