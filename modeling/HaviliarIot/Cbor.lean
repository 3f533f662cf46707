import HaviliarIot.Reader
import Mathlib.Tactic.Ring

/-!
CBOR data item heads, in their shortest form, and readers of them.

A head is one initial byte (major type and five bits of additional information)
and up to eight argument bytes in network order.  `head` writes the shortest
form; `readHead` accepts every form, and delimits what `head` writes
(`readHead_delimits`).  The typed readers on top of it (`readUnsigned`,
`readByteString`, `readArray`, `skip`) are the ones a decoder of records of
integers and byte strings needs.
-/

namespace HaviliarIot.Cbor

/-- The eight major types. -/
inductive Major where
  | unsigned | negative | byteString | textString | array | map | tag | simple
  deriving DecidableEq, Repr

namespace Major

/-- The three high bits of the initial byte. -/
def code : Major → Nat
  | unsigned => 0
  | negative => 1
  | byteString => 2
  | textString => 3
  | array => 4
  | map => 5
  | tag => 6
  | simple => 7

def ofCode : Nat → Major
  | 0 => unsigned
  | 1 => negative
  | 2 => byteString
  | 3 => textString
  | 4 => array
  | 5 => map
  | 6 => tag
  | _ => simple

@[simp] theorem ofCode_code (m : Major) : ofCode m.code = m := by cases m <;> rfl

theorem code_lt (m : Major) : m.code < 8 := by cases m <;> decide

end Major

/-! ## Network byte order -/

/-- The low `width` bytes of `n`, most significant first. -/
def bigEndian : Nat → Nat → List UInt8
  | 0, _ => []
  | width + 1, n => UInt8.ofNat (n / 256 ^ width) :: bigEndian width n

/-- Read bytes as one number, most significant first. -/
def ofBigEndian (bytes : List UInt8) : Nat :=
  bytes.foldl (fun n byte => n * 256 + byte.toNat) 0

@[simp] theorem bigEndian_length (width n : Nat) : (bigEndian width n).length = width := by
  induction width with
  | zero => rfl
  | succ width ih => simp [bigEndian, ih]

private theorem foldl_bigEndian (width n high : Nat) :
    (bigEndian width n).foldl (fun n byte => n * 256 + byte.toNat) high =
      high * 256 ^ width + n % 256 ^ width := by
  induction width generalizing high with
  | zero => simp [bigEndian, Nat.mod_one]
  | succ width ih =>
    have digit : (UInt8.ofNat (n / 256 ^ width)).toNat = n / 256 ^ width % 256 := by
      simp [UInt8.toNat_ofNat']
    have split : n % 256 ^ (width + 1) =
        n / 256 ^ width % 256 * 256 ^ width + n % 256 ^ width := by
      rw [Nat.pow_succ, Nat.mod_mul, Nat.mul_comm (256 ^ width), Nat.add_comm]
    rw [bigEndian, List.foldl_cons, ih, digit, split, Nat.pow_succ, Nat.add_mul]
    ring

/-- Reading back what was written, when it fits. -/
theorem ofBigEndian_bigEndian {width n : Nat} (fits : n < 256 ^ width) :
    ofBigEndian (bigEndian width n) = n := by
  rw [ofBigEndian, foldl_bigEndian, Nat.zero_mul, Nat.zero_add, Nat.mod_eq_of_lt fits]

/-! ## Heads -/

/-- The initial byte: major type above, additional information below. -/
def initialByte (m : Major) (info : Nat) : UInt8 := UInt8.ofNat (m.code * 32 + info)

/-- The shortest head carrying `argument`. -/
def head (m : Major) (argument : Nat) : List UInt8 :=
  if argument < 24 then [initialByte m argument]
  else if argument < 256 then initialByte m 24 :: bigEndian 1 argument
  else if argument < 65536 then initialByte m 25 :: bigEndian 2 argument
  else if argument < 4294967296 then initialByte m 26 :: bigEndian 4 argument
  else initialByte m 27 :: bigEndian 8 argument

/-- An unsigned integer. -/
abbrev unsigned (n : Nat) : List UInt8 := head .unsigned n

/-- A definite byte string. -/
def byteString (bytes : List UInt8) : List UInt8 := head .byteString bytes.length ++ bytes

theorem head_ne_nil (m : Major) (argument : Nat) : head m argument ≠ [] := by
  unfold head
  split_ifs <;> simp

theorem head_length (m : Major) (argument : Nat) :
    (head m argument).length =
      if argument < 24 then 1 else if argument < 256 then 2 else if argument < 65536 then 3
      else if argument < 4294967296 then 5 else 9 := by
  unfold head
  split_ifs <;> simp

/-- A head grows with its argument only through the four size classes. -/
theorem head_length_le {m : Major} {argument : Nat} :
    (argument < 24 → (head m argument).length = 1) ∧
    (argument < 256 → (head m argument).length ≤ 2) ∧
    (argument < 65536 → (head m argument).length ≤ 3) ∧
    (argument < 4294967296 → (head m argument).length ≤ 5) := by
  rw [head_length]
  split_ifs <;> omega

open Reader

/-- The argument behind an initial byte; `none` is the indefinite length. -/
def readArgument (info : Nat) : Reader UInt8 (Option Nat) :=
  if info < 24 then pure (some info)
  else if info ≤ 27 then (fun bytes => some (ofBigEndian bytes)) <$> take (2 ^ (info - 24))
  else if info = 31 then pure none
  else fail

/-- A head of any accepted form. -/
def readHead : Reader UInt8 (Major × Option Nat) := do
  let initial ← token
  let argument ← readArgument (initial.toNat % 32)
  pure (Major.ofCode (initial.toNat / 32), argument)

theorem initialByte_toNat {m : Major} {info : Nat} (small : info < 32) :
    (initialByte m info).toNat = m.code * 32 + info := by
  have bound := m.code_lt
  simp only [initialByte, UInt8.toNat_ofNat']
  omega

private theorem readHead_delimits_of {m : Major} {info argument : Nat} {body : List UInt8}
    (small : info < 32) (rest : Delimits (readArgument info) body (some argument)) :
    Delimits readHead (initialByte m info :: body) (m, some argument) := by
  have low : (initialByte m info).toNat % 32 = info := by
    rw [initialByte_toNat small]; omega
  have high : (initialByte m info).toNat / 32 = m.code := by
    rw [initialByte_toNat small]; omega
  have body' : Delimits (readArgument ((initialByte m info).toNat % 32)) body (some argument) := by
    rwa [low]
  unfold readHead
  refine (token_delimits (initialByte m info)).bind (body'.bind_nil ?_)
  rw [high, Major.ofCode_code]
  exact delimits_pure _

private theorem readArgument_delimits {width info argument : Nat} (wide : 24 ≤ info)
    (narrow : info ≤ 27) (size : width = 2 ^ (info - 24)) (fits : argument < 256 ^ width) :
    Delimits (readArgument info) (bigEndian width argument) (some argument) := by
  have bytes := (take_delimits (bigEndian width argument)).map
    fun bytes => some (ofBigEndian bytes)
  rw [ofBigEndian_bigEndian fits, bigEndian_length] at bytes
  rw [readArgument, if_neg (by omega), if_pos narrow, ← size]
  exact bytes

/-- The shortest head is read back, whatever its size, and never from a part of
it. -/
theorem readHead_delimits (m : Major) {argument : Nat} (fits : argument < 2 ^ 64) :
    Delimits readHead (head m argument) (m, some argument) := by
  unfold head
  split_ifs with h1 h2 h3 h4
  · refine readHead_delimits_of (by omega) ?_
    rw [readArgument, if_pos h1]
    exact delimits_pure _
  · exact readHead_delimits_of (by omega)
      (readArgument_delimits (by omega) (by omega) rfl (by simpa using h2))
  · exact readHead_delimits_of (by omega)
      (readArgument_delimits (by omega) (by omega) rfl (by simpa using h3))
  · exact readHead_delimits_of (by omega)
      (readArgument_delimits (by omega) (by omega) rfl (by simpa using h4))
  · exact readHead_delimits_of (by omega)
      (readArgument_delimits (by omega) (by omega) rfl fits)

/-! ## Typed readers -/

/-- An unsigned integer below `limit`. -/
def readUnsigned (limit : Nat) : Reader UInt8 Nat := do
  match ← readHead with
  | (.unsigned, some n) => if n < limit then pure n else fail
  | _ => fail

/-- A definite byte string. -/
def readByteString : Reader UInt8 (List UInt8) := do
  match ← readHead with
  | (.byteString, some n) => take n
  | _ => fail

/-- An array head; `none` is an array of indefinite length. -/
def readArray : Reader UInt8 (Option Nat) := do
  match ← readHead with
  | (.array, length) => pure length
  | _ => fail

/-- Pass over `pending` definite data items, one head for each unit of fuel.  A
lone break counts as an item; other items of indefinite length are refused, and text is
not decoded. -/
def skipItems : Nat → Nat → Reader UInt8 Unit
  | _, 0 => pure ()
  | 0, _ + 1 => fail
  | fuel + 1, pending + 1 => do
    match ← readHead with
    | (.unsigned, some _) | (.negative, some _) | (.simple, _) => skipItems fuel pending
    | (.byteString, some n) | (.textString, some n) => do
      let _ ← take n
      skipItems fuel pending
    | (.array, some n) => skipItems fuel (pending + n)
    | (.map, some n) => skipItems fuel (pending + 2 * n)
    | (.tag, some _) => skipItems fuel (pending + 1)
    | (_, none) => fail

/-- Pass over one data item.  Every head takes a byte, so the bytes left are fuel
enough. -/
def skip : Reader UInt8 Unit := do
  let fuel ← remaining
  skipItems fuel 1

/-- Whether the next byte is the break that ends an indefinite item, which stays
unread. -/
def atBreak : Reader UInt8 Bool where
  run
    | [] => none
    | next :: rest => some (next = 0xff, next :: rest)
  suffix {input value rest} read := by
    cases input with
    | nil => cases read
    | cons next others =>
      cases Option.some.inj read
      exact List.suffix_refl _

theorem readUnsigned_delimits {limit n : Nat} (below : n < limit) (fits : n < 2 ^ 64) :
    Delimits (readUnsigned limit) (unsigned n) n := by
  unfold readUnsigned
  refine (readHead_delimits .unsigned fits).bind_nil ?_
  simp only [if_pos below]
  exact delimits_pure n

theorem readByteString_delimits {bytes : List UInt8} (fits : bytes.length < 2 ^ 64) :
    Delimits readByteString (byteString bytes) bytes :=
  (readHead_delimits .byteString fits).bind (take_delimits bytes)

theorem readArray_delimits {n : Nat} (fits : n < 2 ^ 64) :
    Delimits readArray (head .array n) (some n) := by
  unfold readArray
  exact (readHead_delimits .array fits).bind_nil (delimits_pure (some n))

theorem skip_delimits_empty_array : Delimits skip (head .array 0) () where
  reads rest := by
    have heads : readHead.run ([initialByte .array 0] ++ rest) = some ((.array, some 0), rest) :=
      (readHead_delimits .array (show 0 < 2 ^ 64 by decide)).reads rest
    have done : (skipItems rest.length 0).run rest = some ((), rest) := by
      cases rest <;> rfl
    change (skipItems (rest.length + 1) 1).run ([initialByte .array 0] ++ rest) = _
    rw [skipItems, run_bind, heads]
    exact done
  truncated {part} ofWhole strict := by
    cases part with
    | nil => rfl
    | cons first rest =>
      obtain ⟨rfl, restNil⟩ := List.cons_prefix_cons.mp ofWhole
      exact absurd (by rw [List.prefix_nil.mp restNil]; rfl) strict

example : (readUnsigned 65536).run [0x19, 0x01, 0x00, 0xff] = some (256, [0xff]) := by decide

end HaviliarIot.Cbor
