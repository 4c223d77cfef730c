/-!
Ids of rows. An id is a word; the sequence number of a row is a word of 64 bits. Each stands for the
other as far as its bits go.
-/

namespace LiveViews.Store

inductive IdWidth where
  | i32
  | i64
  | u32
  | u64
  deriving DecidableEq

def sequenceBound : Nat := 18446744073709551616

def IdWidth.ofSequence (width : IdWidth) (sequence : Nat) : Int :=
  match width with
  | .i32 => Int.bmod sequence 4294967296
  | .i64 => Int.bmod sequence sequenceBound
  | .u32 => (sequence % 4294967296 : Nat)
  | .u64 => (sequence % sequenceBound : Nat)

/-- The sequence number of an id; a negative one counts from the end. -/
def toSequence (id : Int) : Nat :=
  (id % (sequenceBound : Int)).toNat

end LiveViews.Store
