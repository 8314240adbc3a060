import Scaffold.Archive.Bytes

/-! # Deflated data

Data are blocks of bits: stored bytes, or symbols of canonical prefix codes that stand for bytes and for copies
of what came before. Reading stops at the end of the last block, where the data end too early, or where they
break the rules; what was read until then stays.
-/

namespace Scaffold.Archive

/-- Why reading stopped before the last block ended. -/
inductive Stop
  | exhausted
  | corrupt
  deriving DecidableEq, Repr, Inhabited

/-- How far reading has come, in bits, and what was read. -/
structure Inflation where
  position : Nat := 0
  output : ByteArray := ByteArray.empty
  deriving Inhabited

/-- A step of reading. What it did stays when it stops. -/
abbrev Inflate := ExceptT Stop (StateM Inflation)

namespace Inflate

/-- The next bit. -/
def bit (data : ByteArray) : Inflate Nat := do
  let position := (← get).position
  if 8 * data.size ≤ position then throw .exhausted
  modify fun state => { state with position := position + 1 }
  pure (byteAt data (position / 8) / Nat.pow 2 (position % 8) % 2)

/-- A number of so many bits, the lowest first. -/
def bits (data : ByteArray) : Nat → Inflate Nat
  | 0 => pure 0
  | count + 1 => do
    let low ← bit data
    let rest ← bits data count
    pure (low + 2 * rest)

/-- Put out a byte. -/
def emit (byte : Nat) : Inflate Unit :=
  modify fun state => { state with output := state.output.push byte.toUInt8 }

/-- Put out a number of bytes from a distance back, which may be among those put out meanwhile. -/
def copy (distance : Nat) : Nat → Inflate Unit
  | 0 => pure ()
  | count + 1 => do
    let output := (← get).output
    if distance = 0 || output.size < distance then throw .corrupt
    emit (byteAt output (output.size - distance))
    copy distance count

/-- A prefix code: how many symbols have each length from one bit on, and the symbols in the order of their
codes. -/
structure Code where
  counts : List Nat
  symbols : Array Nat
  deriving Inhabited

/-- The greatest length of a symbol. -/
def maxLength : Nat := 15

/-- The code in which each symbol has the length given for it, or none at all. -/
def codeOf (lengths : List Nat) : Code :=
  let ofLength := fun length => lengths.zipIdx.filterMap fun (given, symbol) =>
    if given = length then some symbol else none
  let groups := (List.range maxLength).map fun length => ofLength (length + 1)
  ⟨groups.map List.length, groups.flatten.toArray⟩

/-- How many codes of the greatest length are left; none if there are too many symbols. -/
def spare? (code : Code) : Option Nat :=
  code.counts.foldlM (fun left count => if 2 * left < count then none else some (2 * left - count)) 1

/-- Whether a code leaves no bits without meaning, or has a single symbol of one bit at most. -/
def isUsable (code : Code) : Bool :=
  match spare? code with
  | none => false
  | some 0 => true
  | some _ => code.symbols.size = 0 || (code.symbols.size = 1 && code.counts.head? = some 1)

/-- Read a symbol, given the code so far, the first code of the present length, and how many symbols come
before it. -/
def symbolFrom (data : ByteArray) (symbols : Array Nat) (code first before : Nat) : List Nat → Inflate Nat
  | [] => throw .corrupt
  | count :: counts => do
    let code := code + (← bit data)
    if code < first + count then
      match symbols[before + (code - first)]? with
      | some symbol => pure symbol
      | none => throw .corrupt
    else symbolFrom data symbols (2 * code) (2 * (first + count)) (before + count) counts

/-- Read a symbol of a code. -/
def symbol (data : ByteArray) (code : Code) : Inflate Nat := symbolFrom data code.symbols 0 0 0 code.counts

/-- The least length of a copy for each symbol, and the extra bits that add to it. -/
def lengthBases : List (Nat × Nat) :=
  [(3, 0), (4, 0), (5, 0), (6, 0), (7, 0), (8, 0), (9, 0), (10, 0), (11, 1), (13, 1), (15, 1), (17, 1),
    (19, 2), (23, 2), (27, 2), (31, 2), (35, 3), (43, 3), (51, 3), (59, 3), (67, 4), (83, 4), (99, 4),
    (115, 4), (131, 5), (163, 5), (195, 5), (227, 5), (258, 0)]

/-- The least distance of a copy for each symbol, and the extra bits that add to it. -/
def distanceBases : List (Nat × Nat) :=
  [(1, 0), (2, 0), (3, 0), (4, 0), (5, 1), (7, 1), (9, 2), (13, 2), (17, 3), (25, 3), (33, 4), (49, 4),
    (65, 5), (97, 5), (129, 6), (193, 6), (257, 7), (385, 7), (513, 8), (769, 8), (1025, 9), (1537, 9),
    (2049, 10), (3073, 10), (4097, 11), (6145, 11), (8193, 12), (12289, 12), (16385, 13), (24577, 13)]

/-- A number given by a symbol and the extra bits after it. -/
def extended (data : ByteArray) (bases : List (Nat × Nat)) (symbol : Nat) : Inflate Nat :=
  match bases[symbol]? with
  | some (base, extra) => do
    let more ← bits data extra
    pure (base + more)
  | none => throw .corrupt

/-- Read symbols up to the one that ends a block. The fuel bounds their number. -/
def coded (data : ByteArray) (literals distances : Code) (fuel : Nat) : Inflate Unit :=
  match fuel with
  | 0 => throw .exhausted
  | fuel + 1 => do
    let next ← symbol data literals
    if next < 256 then
      emit next
      coded data literals distances fuel
    else if next = 256 then pure ()
    else
      let length ← extended data lengthBases (next - 257)
      let distance ← extended data distanceBases (← symbol data distances)
      copy distance length
      coded data literals distances fuel

/-- The lengths of the fixed code of bytes and copies. -/
def fixedLengths : List Nat :=
  List.replicate 144 8 ++ List.replicate 112 9 ++ List.replicate 24 7 ++ List.replicate 8 8

/-- The order in which the lengths of the code of lengths are written. -/
def lengthOrder : List Nat := [16, 17, 18, 0, 8, 7, 9, 6, 10, 5, 11, 4, 12, 3, 13, 2, 14, 1, 15]

/-- Read so many lengths of symbols, where a symbol may repeat the last length or zero. -/
def lengths (data : ByteArray) (code : Code) (fuel wanted : Nat) (known : List Nat) : Inflate (List Nat) :=
  match fuel with
  | 0 => throw .corrupt
  | fuel + 1 => do
    if wanted = known.length then pure known.reverse
    else
      let next ← symbol data code
      let added ←
        if next < 16 then pure [next]
        else if next = 16 then do
          match known with
          | [] => throw .corrupt
          | last :: _ => pure (List.replicate (3 + (← bits data 2)) last)
        else if next = 17 then pure (List.replicate (3 + (← bits data 3)) 0)
        else pure (List.replicate (11 + (← bits data 7)) 0)
      if wanted < known.length + added.length then throw .corrupt
      lengths data code fuel wanted (added ++ known)

/-- Read the codes of a block that brings its own. -/
def ownCodes (data : ByteArray) : Inflate (Code × Code) := do
  let literalCount := 257 + (← bits data 5)
  let distanceCount := 1 + (← bits data 5)
  let lengthCount := 4 + (← bits data 4)
  if 286 < literalCount || 30 < distanceCount then throw .corrupt
  let written ← (lengthOrder.take lengthCount).mapM fun symbol => do
    let length ← bits data 3
    pure (symbol, length)
  let lengthCode := codeOf ((List.range 19).map fun symbol => (written.lookup symbol).getD 0)
  if spare? lengthCode ≠ some 0 then throw .corrupt
  let wanted := literalCount + distanceCount
  let known ← lengths data lengthCode (wanted + 1) wanted []
  let literals := codeOf (known.take literalCount)
  let distances := codeOf (known.drop literalCount)
  if known[256]? = some 0 || !isUsable literals || !isUsable distances then throw .corrupt
  pure (literals, distances)

/-- Read a block of stored bytes, which starts at the next whole byte. -/
def stored (data : ByteArray) : Inflate Unit := do
  let start := ((← get).position + 7) / 8
  if data.size < start + 4 then throw .exhausted
  let length := word16 data start
  if length + word16 data (start + 2) ≠ 0xFFFF then throw .corrupt
  let bytes := slice data (start + 4) length
  modify fun state => { position := 8 * (start + 4 + bytes.size), output := state.output ++ bytes }
  if bytes.size < length then throw .exhausted

/-- Read blocks up to the last one. The fuel bounds their number. -/
def blocks (data : ByteArray) (fuel : Nat) : Inflate Unit :=
  match fuel with
  | 0 => throw .exhausted
  | fuel + 1 => do
    let isLast ← bit data
    match ← bits data 2 with
    | 0 => stored data
    | 1 => coded data (codeOf fixedLengths) (codeOf (List.replicate 30 5)) (8 * data.size + 1)
    | 2 =>
      let (literals, distances) ← ownCodes data
      coded data literals distances (8 * data.size + 1)
    | _ => throw .corrupt
    if isLast = 1 then pure () else blocks data fuel

end Inflate

/-- What deflated data hold, how many bytes of the data that took, and why it ended early if it did. -/
def inflate (data : ByteArray) : ByteArray × Nat × Option Stop :=
  let (result, state) := (Inflate.blocks data (8 * data.size + 1)).run.run {}
  let stop? :=
    match result with
    | .ok _ => none
    | .error stop => some stop
  (state.output, (state.position + 7) / 8, stop?)

end Scaffold.Archive
