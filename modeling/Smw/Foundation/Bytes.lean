import Mathlib.Algebra.Order.Ring.Nat
import Mathlib.Tactic.Ring

/-! Bytes: spans of a flat memory, and integers of a fixed width in either byte order. -/
namespace Foundation

section Memory
variable (memory : Nat → UInt8)

def span (offset size : Nat) : List UInt8 :=
  (List.range size).map (fun index => memory (offset + index))

def fill (offset : Nat) (bytes : List UInt8) : Nat → UInt8 := fun address =>
  if address < offset then memory address else bytes.getD (address - offset) (memory address)

@[simp] theorem span_length (offset size : Nat) : (span memory offset size).length = size := by
  simp [span]

theorem span_append (offset first second : Nat) :
    span memory offset (first + second) = span memory offset first ++ span memory (offset + first) second := by
  simp [span,List.range_add,Nat.add_assoc]

theorem span_fill (offset : Nat) (bytes : List UInt8) :
    span (fill memory offset bytes) offset bytes.length = bytes := by
  apply List.ext_getElem
  · simp
  · intro index left right
    simp [span,fill,right]

theorem span_fill_apart (written : Nat) (bytes : List UInt8) (offset size : Nat)
    (apart : offset + size ≤ written ∨ written + bytes.length ≤ offset) :
    span (fill memory written bytes) offset size = span memory offset size := by
  apply List.map_congr_left
  intro index member
  have inside := List.mem_range.mp member
  unfold fill
  split
  next => rfl
  next reached =>
    have outside : bytes.length ≤ offset + index - written := by omega
    rw [List.getD_eq_getElem?_getD,List.getElem?_eq_none outside,Option.getD_none]

end Memory

/-- The bytes of an integer, the low ones first. -/
def lowFirst : Nat → Nat → List UInt8
  | 0, _ => []
  | width + 1, value => UInt8.ofNat value :: lowFirst width (value / 256)

def ofLowFirst : List UInt8 → Nat
  | [] => 0
  | byte :: rest => byte.toNat + 256 * ofLowFirst rest

@[simp] theorem lowFirst_length (width value : Nat) : (lowFirst width value).length = width := by
  induction width generalizing value with
  | zero => rfl
  | succ width ih => simp [lowFirst,ih]

theorem ofLowFirst_lowFirst (width value : Nat) : ofLowFirst (lowFirst width value) = value % 256 ^ width := by
  induction width generalizing value with
  | zero => simp [lowFirst,ofLowFirst,Nat.mod_one]
  | succ width ih =>
    have low : (UInt8.ofNat value).toNat = value % 256 := UInt8.toNat_ofNat'
    rw [lowFirst,ofLowFirst,ih,low,Nat.pow_succ,Nat.mul_comm (256 ^ width),Nat.mod_mul]

inductive ByteOrder
  | little
  | big
deriving DecidableEq,Repr

namespace ByteOrder

def encode (order : ByteOrder) (width value : Nat) : List UInt8 :=
  match order with
  | little => lowFirst width value
  | big => (lowFirst width value).reverse

def decode (order : ByteOrder) (bytes : List UInt8) : Nat :=
  match order with
  | little => ofLowFirst bytes
  | big => ofLowFirst bytes.reverse

/-- A host of one order that reads an integer of another one swaps its bytes first. -/
def swapped (host recorded : ByteOrder) (bytes : List UInt8) : List UInt8 :=
  if host = recorded then bytes else bytes.reverse

@[simp] theorem encode_length (order : ByteOrder) (width value : Nat) :
    (order.encode width value).length = width := by
  cases order with
  | little => exact lowFirst_length width value
  | big => simp [encode]

theorem decode_encode (order : ByteOrder) (width value : Nat) (fits : value < 256 ^ width) :
    order.decode (order.encode width value) = value := by
  cases order with
  | little =>
    change ofLowFirst (lowFirst width value) = value
    rw [ofLowFirst_lowFirst,Nat.mod_eq_of_lt fits]
  | big =>
    change ofLowFirst (lowFirst width value).reverse.reverse = value
    rw [List.reverse_reverse,ofLowFirst_lowFirst,Nat.mod_eq_of_lt fits]

/-- Whatever the host, an integer is read in the order it was recorded in. -/
theorem decode_swapped (host recorded : ByteOrder) (bytes : List UInt8) :
    host.decode (swapped host recorded bytes) = recorded.decode bytes := by
  cases host <;> cases recorded <;> simp [swapped,decode]

end ByteOrder
end Foundation
